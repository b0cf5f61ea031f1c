import Liquid.Value.Number

/-!
# Comparing values

- `Value.same`: equality of values as data. An integer equals the double of its value, and a drop
  only itself.
- `Value.looseEq`: equality in conditions. Numbers also equal strings that hold them, and a truth
  value equals everything that passes or fails a test as it does.
- `Value.order?`: the order of strings and of numbers; other values have none.
-/

namespace Liquid.Value

open Liquid.Decimal

mutual

/-- Equality of values as data. -/
def same : Value → Value → Bool
  | nil, nil => true
  | bool a, bool b => a == b
  | integer a, integer b => a == b
  | float a, float b => a == b
  | integer a, float b => ofInt64 a == b
  | float a, integer b => ofInt64 b == a
  | string a, string b => a == b
  | list a, list b => sameItems a b
  | dict a, dict b => sameEntries a b
  | drop a, drop b => a.identity == b.identity
  | _, _ => false

/-- Equality of two lists, item by item. -/
def sameItems : List Value → List Value → Bool
  | [], [] => true
  | a :: as, b :: bs => same a b && sameItems as bs
  | _, _ => false

/-- Equality of two dictionaries, entry by entry. -/
def sameEntries : List (String × Value) → List (String × Value) → Bool
  | [], [] => true
  | (k, a) :: as, (l, b) :: bs => k == l && same a b && sameEntries as bs
  | _, _ => false

end

/-- Equality in conditions and in `case`. Nil equals only nil. -/
def looseEq (a b : Value) : Bool :=
  match a, b with
  | nil, nil => true
  | nil, _ => false
  | _, nil => false
  | bool a, bool b => a == b
  | bool a, v => a == v.isTruthy
  | v, bool b => b == v.isTruthy
  | string a, string b => a == b
  | a, b =>
    if a.isNumber || b.isNumber then
      match a.asFloat?, b.asFloat? with
      | some x, some y => x == y
      | _, _ => false
    else same a b

/-- The order of two doubles, unless one of them is a NaN. -/
def floatOrder? (x y : Float) : Option Ordering :=
  if x < y then some .lt
  else if x == y then some .eq
  else if y < x then some .gt
  else none

/-- The order of two strings, by code point. -/
def stringOrder (a b : String) : Ordering :=
  if a < b then .lt else if a = b then .eq else .gt

/-- The order in conditions and in sorting. -/
def order? (a b : Value) : Option Ordering :=
  match a, b with
  | string a, string b => some (stringOrder a b)
  | a, b =>
    if a.isNumber || b.isNumber then
      match a.asFloat?, b.asFloat? with
      | some x, some y => floatOrder? x y
      | _, _ => none
    else none

end Liquid.Value
