import Liquid.Value.Basic
import Liquid.Decimal.Reader
import Liquid.Text.Blank

/-!
# Values as numbers

- `Value.asInteger?`: the integer that a value is taken for as an index or a count.
- `Value.asFloat?`: the double that it is compared as.
- `Value.toNumber`: the number that it takes part in arithmetic as.
-/

namespace Liquid.Value

open Liquid.Decimal

/-- The integer a value is taken for. A double is cut off at the point, also when it is written in
a string; a truth value is one or zero. -/
def asInteger? : Value → Option Int64
  | integer i => some i
  | float x => some (toInt64 x)
  | string s =>
    let text := Text.trim s.toList
    match readInt64? text with
    | some i => some i
    | none => (readFloat? text).map toInt64
  | bool b => some (if b then 1 else 0)
  | _ => none

/-- The double a value is compared as: that of a number, or of a string that holds one. -/
def asFloat? : Value → Option Float
  | float x => some x
  | integer i => some (ofInt64 i)
  | string s => readFloat? (Text.trim s.toList)
  | _ => none

/-- A number of arithmetic. -/
inductive Number where
  /-- An integer of 64 bits. -/
  | integer (i : Int64)
  /-- A double. -/
  | float (x : Float)

/-- The number as a double. -/
def Number.toFloat : Number → Float
  | .integer i => ofInt64 i
  | .float x => x

/-- The number as a value. -/
def Number.toValue : Number → Value
  | .integer i => .integer i
  | .float x => .float x

/-- The number a value takes part in arithmetic as. A string with a point is a double, one without
an integer; what is no number counts as zero. -/
def toNumber : Value → Number
  | integer i => .integer i
  | float x => .float x
  | string s =>
    let text := Text.trim s.toList
    if text.contains '.' then ((readFloat? text).map Number.float).getD (.integer 0)
    else ((readInt64? text).map Number.integer).getD (.integer 0)
  | bool b => .integer (if b then 1 else 0)
  | _ => .integer 0

end Liquid.Value
