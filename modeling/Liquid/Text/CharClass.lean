import Liquid.Text.CharClass.Ranges

/-!
# Character classes

The classes that names in markup are read by. ASCII is decided by itself, so that the common case
reads no table.

- `isWord`: letters, marks, decimal digits, connectors such as `_`, and the two joiners. Tag
  names, loop variables and attribute names are runs of these.
- `isDigit`: the decimal digits of every script.
- `isAlphanumeric`: letters and numerals of every kind. Filter names hold these and `_`.

The first two classes are those of Unicode 16, the third is that of Unicode 17.
-/

namespace Liquid.Text

open CharClass

/-- An ASCII letter. -/
def isAsciiLetter (c : Char) : Bool :=
  ('a' ≤ c && c ≤ 'z') || ('A' ≤ c && c ≤ 'Z')

/-- An ASCII decimal digit. -/
def isAsciiDigit (c : Char) : Bool := '0' ≤ c && c ≤ '9'

/-- An ASCII letter or decimal digit. -/
def isAsciiAlphanumeric (c : Char) : Bool := isAsciiLetter c || isAsciiDigit c

/-- The punctuation that connects words (general category `Pc`), beyond ASCII. -/
def connectors : Ranges := [(0x203F, 0x2040), (0x2054, 0x2054), (0xFE33, 0xFE34), (0xFE4D, 0xFE4F),
  (0xFF3F, 0xFF3F)]

/-- The zero-width joiner and non-joiner. -/
def joiners : Ranges := [(0x200C, 0x200D)]

/-- A character of a word: a letter, a mark, a decimal digit, a connector or a joiner. -/
def isWord (c : Char) : Bool :=
  let n := c.toNat
  if n < 0x80 then isAsciiAlphanumeric c || c == '_'
  else !latest.holds n && (alphabetic.holds n || marks.holds n || decimalDigits.holds n
    || connectors.holds n || joiners.holds n)

/-- A decimal digit of any script. -/
def isDigit (c : Char) : Bool :=
  let n := c.toNat
  if n < 0x80 then isAsciiDigit c else !latest.holds n && decimalDigits.holds n

/-- A letter or a numeral of any script. -/
def isAlphanumeric (c : Char) : Bool :=
  let n := c.toNat
  if n < 0x80 then isAsciiAlphanumeric c
  else alphabetic.holds n || decimalDigits.holds n || otherNumerals.holds n

end Liquid.Text
