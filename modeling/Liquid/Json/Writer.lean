import Liquid.Json.Basic
import Liquid.Decimal.Layout

/-!
# Writing JSON

Compact JSON text: no blanks, members in key order.

- `Json.quote`: a string in quotes. Quotes, backslashes and the characters below U+0020 are
  escaped, and nothing else.
- `Json.write`: the text of a value.
-/

namespace Liquid.Json

/-- A hexadecimal digit in lower case. -/
def hexDigit (n : Nat) : Char := (Nat.toDigits 16 (n % 16)).headD '0'

/-- A character inside a string. -/
def escape (c : Char) : List Char :=
  match c with
  | '"' => ['\\', '"']
  | '\\' => ['\\', '\\']
  | '\x08' => ['\\', 'b']
  | '\x0c' => ['\\', 'f']
  | '\n' => ['\\', 'n']
  | '\r' => ['\\', 'r']
  | '\t' => ['\\', 't']
  | c =>
    if c.toNat < 0x20 then ['\\', 'u', '0', '0', hexDigit (c.toNat / 16), hexDigit c.toNat]
    else [c]

/-- A string in quotes. -/
def quote (s : String) : String := String.ofList ('"' :: s.toList.flatMap escape ++ ['"'])

mutual

/-- The compact text of a value. -/
def write : Json → String
  | null => "null"
  | bool b => if b then "true" else "false"
  | integer i => toString i
  | float x => String.ofList (Decimal.json.write x)
  | string s => quote s
  | array elements => "[" ++ String.intercalate "," (writeElements elements) ++ "]"
  | object members => "\x7b" ++ String.intercalate "," (writeMembers members) ++ "\x7d"

/-- The texts of the elements of an array. -/
def writeElements : List Json → List String
  | [] => []
  | j :: rest => write j :: writeElements rest

/-- The texts of the members of an object. -/
def writeMembers : List (String × Json) → List String
  | [] => []
  | (key, j) :: rest => (quote key ++ ":" ++ write j) :: writeMembers rest

end

end Liquid.Json
