import Liquid.Value.Basic
import Liquid.Json.Basic
import Liquid.Decimal.Reader

/-!
# Values and JSON

- `Value.toJson`: a value as JSON. A drop contributes the plain value it stands for.
- `Value.ofJson`: JSON as a value. A whole number beyond 64 signed bits becomes a double.
-/

namespace Liquid.Value

mutual

/-- A value as JSON; a double that is not finite is `null`. -/
def toJson : Value → Json
  | nil => .null
  | bool b => .bool b
  | integer i => .integer i.toInt
  | float x => if x.isFinite then .float x else .null
  | string s => .string s
  | list items => .array (itemsToJson items)
  | dict entries => .object (entriesToJson entries)
  | drop d => dropToJson d

/-- The items of a list as JSON. -/
def itemsToJson : List Value → List Json
  | [] => []
  | v :: rest => toJson v :: itemsToJson rest

/-- The entries of a dictionary as JSON. -/
def entriesToJson : List (String × Value) → List (String × Json)
  | [] => []
  | (key, v) :: rest => (key, toJson v) :: entriesToJson rest

/-- The plain value of a drop as JSON. -/
def dropToJson : Drop → Json
  | ⟨_, _, _, some v⟩ => toJson v
  | ⟨_, _, _, none⟩ => .null

end

mutual

/-- JSON as a value. -/
def ofJson : Json → Value
  | .null => nil
  | .bool b => bool b
  | .integer i =>
    match Decimal.int64? i with
    | some i => integer i
    | none => float (Decimal.nearest (decide (i < 0)) i.natAbs 1)
  | .float x => float x
  | .string s => string s
  | .array elements => list (ofElements elements)
  | .object members => dict (ofMembers members)

/-- The elements of an array as values. -/
def ofElements : List Json → List Value
  | [] => []
  | j :: rest => ofJson j :: ofElements rest

/-- The members of an object as values. -/
def ofMembers : List (String × Json) → List (String × Value)
  | [] => []
  | (key, j) :: rest => (key, ofJson j) :: ofMembers rest

end

end Liquid.Value
