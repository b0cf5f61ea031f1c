import Liquid.Text.Literal.Table

/-!
# String literals

A string in double quotes, for messages that list names.

- `Literal.quote`: quotes and backslashes are escaped, and so is every character that is not seen
  by itself (`Literal.isHidden`).
- `Literal.quoteAll`: a list of strings in brackets.
-/

namespace Liquid.Text.Literal

/-- A hexadecimal number in lower case. -/
def hex (n : Nat) : List Char := Nat.toDigits 16 n

/-- Whether a character is written by its number: a control, a separator other than the space, a
format character, one that is drawn together with the one in front of it, or none at all. -/
def isHidden (c : Char) : Bool :=
  let n := c.toNat
  if n < 0x80 then n < 0x20 || n == 0x7F else unseen.holds n || extenders.holds n

/-- A character inside a literal. -/
def escape (c : Char) : List Char :=
  match c with
  | '"' => ['\\', '"']
  | '\\' => ['\\', '\\']
  | '\n' => ['\\', 'n']
  | '\r' => ['\\', 'r']
  | '\t' => ['\\', 't']
  | '\x00' => ['\\', '0']
  | c => if isHidden c then '\\' :: 'u' :: '{' :: hex c.toNat ++ ['}'] else [c]

/-- A string in quotes. -/
def quote (s : String) : String := String.ofList ('"' :: s.toList.flatMap escape ++ ['"'])

/-- Strings in quotes, in brackets and with commas between them. -/
def quoteAll (strings : List String) : String :=
  "[" ++ String.intercalate ", " (strings.map quote) ++ "]"

end Liquid.Text.Literal
