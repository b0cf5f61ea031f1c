import Liquid.Text.CharClass
import Liquid.Text.Search
import Liquid.Text.Utf8

/-!
# Percent encoding

Text as it stands in the query of an address.

- `Percent.encode`: of the UTF-8 form ASCII letters and digits and `*`, `-`, `.`, `_` stay, and
  every other byte becomes `%` and two hexadecimal digits; a space becomes `+` in the end.
- `Percent.decode`: the reverse. A `%` without two digits behind it stays, and bytes that are no
  UTF-8 become U+FFFD.
-/

namespace Liquid.Text.Percent

/-- The characters that stay as they are. -/
def isKept (c : Char) : Bool :=
  isAsciiAlphanumeric c || c == '*' || c == '-' || c == '.' || c == '_'

/-- A hexadecimal digit in upper case. -/
def hexDigit (n : Nat) : Char := ((Nat.toDigits 16 (n % 16)).headD '0').toUpper

/-- A byte as `%` and two digits. -/
def escapeByte (b : UInt8) : List Char := ['%', hexDigit (b.toNat / 16), hexDigit b.toNat]

/-- What is written for a byte. -/
def encodeByte (b : UInt8) : List Char :=
  let c := Char.ofNat b.toNat
  if isKept c then [c] else escapeByte b

/-- The encoded text. A space is written as a byte first, and then as `+`. -/
def encode (s : List Char) : List Char :=
  replaceAll ['%', '2', '0'] ['+'] ((Utf8.encode s).flatMap encodeByte)

/-- The value of a hexadecimal digit of either case. -/
def hexValue? (b : UInt8) : Option UInt8 :=
  if 0x30 ≤ b && b ≤ 0x39 then some (b - 0x30)
  else if 0x41 ≤ b && b ≤ 0x46 then some (b - 0x41 + 10)
  else if 0x61 ≤ b && b ≤ 0x66 then some (b - 0x61 + 10)
  else none

/-- The bytes that an encoded text stands for, apart from the meaning of `+`. -/
def decodeBytes : List UInt8 → List UInt8
  | 0x25 :: a :: b :: rest =>
    match hexValue? a, hexValue? b with
    | some high, some low => (high * 16 + low) :: decodeBytes rest
    | _, _ => 0x25 :: decodeBytes (a :: b :: rest)
  | c :: rest => c :: decodeBytes rest
  | [] => []

/-- The decoded text. -/
def decode (s : List Char) : List Char :=
  Utf8.decodeLossy (decodeBytes (Utf8.encode (s.map fun c => if c = '+' then ' ' else c)))

end Liquid.Text.Percent
