import Liquid.Value.Json
import Liquid.Json.Writer

/-!
# The text of a value

What a template prints for a value.

- `Value.toText`: nil prints nothing, truth values `1` and `0`, a list its items without anything
  between them, a dictionary its JSON.
-/

namespace Liquid.Value

mutual

/-- The text that a template prints for a value. -/
def toText : Value → String
  | nil => ""
  | bool b => if b then "1" else "0"
  | integer i => toString i.toInt
  | float x => String.ofList (Decimal.plain.write x)
  | string s => s
  | list items => itemsToText items
  | dict entries => (dict entries).toJson.write
  | drop d => d.text

/-- The texts of the items of a list, one after the other. -/
def itemsToText : List Value → String
  | [] => ""
  | v :: rest => toText v ++ itemsToText rest

end

/-- The characters of the text of a value. -/
def toChars (v : Value) : List Char := v.toText.toList

end Liquid.Value
