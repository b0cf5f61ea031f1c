import Liquid.Expression.Parser
import Liquid.Context
import Liquid.Value.Number

/-!
# Evaluating expressions

An expression has a value in every context; what cannot be found is nil. (`SPEC_FULL.md`, section
5.3.)

- `Value.member`: one step of a look-up: a dictionary by key, a list by position, a drop by
  attribute. At the end of a path lists and dictionaries also have a `size`.
- `Expression.evaluateBy`: the value of an expression, given the values of names and attributes.
- `Expression.evaluate`: the value of an expression in a context.
- `Expression.range?`: the bounds of an expression that is a range.
- `Context.get`: the value of an expression that is given as markup.
-/

namespace Liquid

open Text

namespace Value

/-- The item of a list at a position; negative positions count from the end. -/
def itemAt (items : List Value) (index : Int64) : Value :=
  let i := if index < 0 then items.length + index.toInt else index.toInt
  if 0 ≤ i then items.getD i.toNat .nil else .nil

/-- The member of a container under a key. `atEnd` says whether the path ends there, and `read` what
the attributes of drops are. -/
def member (read : Drop → String → Value) (atEnd : Bool) (container key : Value) : Value :=
  match container with
  | dict entries =>
    let name := key.toText
    match Keyed.get? name entries with
    | some v => v
    | none => if atEnd && name == "size" then ofNat entries.length else nil
  | list items =>
    match key with
    | integer i => itemAt items i
    | string name =>
      if name = "size" ∧ atEnd then ofNat items.length
      else if name = "first" then items.headD nil
      else if name = "last" then items.getLastD nil
      else
        match Decimal.readInt64? name.toList with
        | some i => itemAt items i
        | none => nil
    | _ => nil
  | drop d =>
    let name := key.toText
    if d.hasKey name then read d name else nil
  | _ => nil

end Value

namespace Expression

/-- The longest range that becomes a list. -/
def maxRangeLength : Int := 100000

/-- The integers from `first` to `last`. -/
def integersBetween (first last : Int64) : List Value :=
  (List.range (last.toInt - first.toInt + 1).toNat).map fun (n : Nat) =>
    .integer (Int64.ofInt (first.toInt + n))

mutual

/-- The value of an expression, where `root` is the value of a name, and `read` that of an attribute
of a drop. -/
def evaluateBy (read : Drop → String → Value) (root : String → Value) : Expression → Value
  | literal v => v
  | path name segments _ => followBy read root segments (root name)
  | range first last =>
    let a := ((evaluateBy read root first).asInteger?).getD 0
    let b := ((evaluateBy read root last).asInteger?).getD 0
    if maxRangeLength ≤ b.toInt - a.toInt then .nil else .list (integersBetween a b)
  | array items => .list (evaluateAllBy read root items)

/-- The values of a list of expressions. -/
def evaluateAllBy (read : Drop → String → Value) (root : String → Value) :
    List Expression → List Value
  | [] => []
  | e :: rest => evaluateBy read root e :: evaluateAllBy read root rest

/-- The key that a segment stands for. -/
def keyBy (read : Drop → String → Value) (root : String → Value) : Segment → Value
  | .key name => .string name
  | .index e => evaluateBy read root e

/-- Follows the segments of a path from a value on. A drop that stands for a plain value gives way
to it at every step. -/
def followBy (read : Drop → String → Value) (root : String → Value) :
    List Segment → Value → Value
  | [], v => v.normalize
  | segment :: rest, v =>
    match v.normalize.member read rest.isEmpty (keyBy read root segment) with
    | .nil => .nil
    | next => followBy read root rest next

end

/-- The value of an expression. -/
def evaluate (e : Expression) (c : Context) : Value := e.evaluateBy c.read (c.root ·)

/-- The bounds of an expression that is a range; what is no integer counts as zero. -/
def range? (e : Expression) (c : Context) : Option (Int64 × Int64) :=
  match e with
  | range first last =>
    some ((first.evaluate c).asInteger?.getD 0, (last.evaluate c).asInteger?.getD 0)
  | _ => none

end Expression

/-- The value of an expression given as markup; nil for markup of the wrong form. -/
def Context.get (c : Context) (markup : String) : Value :=
  match Expression.parse markup.toList with
  | .ok e => e.evaluate c
  | .error _ => .nil

end Liquid
