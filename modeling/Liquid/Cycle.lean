import Liquid.Expression.Evaluate

/-!
# Cycles

A `cycle` tag emits the next of its values each time it is rendered. Positions are kept in a
register, under the group of the tag or, without a group, under its values as written.
(`SPEC_FULL.md`, section 5.4.)

- `Cycle.parse`: reads `[group:] value, value, …`.
- `Cycle.step`: the value that comes next, and the context in which the one after it does.
-/

namespace Liquid

open Text

/-- A cycle of at least one value. -/
structure Cycle where
  /-- The group that shares a position; none for a cycle of its own. -/
  group : Option Expression
  /-- The values as written, one after the other. -/
  key : String
  /-- The first value. -/
  first : Expression
  /-- The values behind the first. -/
  others : List Expression
  deriving Inhabited

namespace Cycle

/-- All values. -/
def values (cycle : Cycle) : List Expression := cycle.first :: cycle.others

/-- The group of a cycle and its values, as they are written. -/
def split (s : List Char) : Option (List Char) × List Char :=
  match cutUnquoted? ':' s with
  | some cut => (some cut.1, cut.2)
  | none => (none, s)

/-- Reads a cycle. -/
def parse (markup : String) : Except Error Cycle := do
  let (group, rest) := split markup.toList
  let group ← match group with
    | some text => some <$> Expression.parse text
    | none => pure none
  let pieces := ((splitUnquoted ',' rest).map trim).filter fun piece => !piece.isEmpty
  match pieces with
  | [] => throw (.markup .cycle markup)
  | first :: others =>
    return {
      group
      key := String.ofList pieces.flatten
      first := ← Expression.parse first
      others := ← others.mapM Expression.parse }

/-- The register that keeps the positions. -/
def positions : String := "cycle"

/-- What the position of the cycle is kept under. -/
def keyIn (cycle : Cycle) (c : Context) : String :=
  match cycle.group with
  | some group => (group.evaluate c).toText
  | none => cycle.key

/-- The position of the cycle: what the register holds, modulo the number of values. -/
def position (cycle : Cycle) (c : Context) : Nat :=
  (((c.registerEntry positions (cycle.keyIn c)).asInteger?.getD 0).toInt).toNat
    % cycle.values.length

/-- The text of the value that comes next, and the context with the position moved on. -/
def step (cycle : Cycle) (c : Context) : String × Context :=
  let position := cycle.position c
  let value := cycle.values.getD position cycle.first
  ((value.evaluate c).toText,
    c.setRegisterEntry positions (cycle.keyIn c)
      (.ofNat ((position + 1) % cycle.values.length)))

end Cycle

end Liquid
