import Liquid.Decimal.Binary64
import Liquid.Text.CharClass

/-!
# Reading numbers

Numbers in text, read as a whole: nothing may stand in front of them or behind them.

- `readInt64?`: a sign or none, then ASCII digits, within 64 bits.
- `readNat?`: digits with at most a plus sign, below a bound.
- `readFloat?`: digits with a point and an exponent, or the names of the infinities and of NaN in
  any case. The nearest double is taken, so a number too great is an infinity.
-/

namespace Liquid.Decimal

open Liquid.Text

/-- The whole number that a run of ASCII digits stands for. -/
def natOfDigits (digits : List Char) : Nat :=
  digits.foldl (fun n d => 10 * n + (d.toNat - '0'.toNat)) 0

/-- Whether a text is one ASCII digit or more, and nothing else. -/
def isDigits (s : List Char) : Bool := !s.isEmpty && s.all isAsciiDigit

/-- Takes the sign off a number: whether it is a minus, and what follows. -/
def splitSign : List Char → Bool × List Char
  | '-' :: rest => (true, rest)
  | '+' :: rest => (false, rest)
  | s => (false, s)

/-- The integer of 64 bits with the given value, if there is one. -/
def int64? (i : Int) : Option Int64 :=
  if Int64.minValue.toInt ≤ i ∧ i ≤ Int64.maxValue.toInt then some (Int64.ofInt i) else none

/-- Reads a sign or none, then digits. -/
def readInt64? (s : List Char) : Option Int64 :=
  let (negative, digits) := splitSign s
  if isDigits digits then
    int64? (if negative then -(natOfDigits digits : Int) else natOfDigits digits)
  else none

/-- Reads digits, a plus sign in front allowed, to a number below `bound`. -/
def readNat? (bound : Nat) (s : List Char) : Option Nat :=
  let digits := match s with
    | '+' :: rest => rest
    | _ => s
  if isDigits digits && natOfDigits digits < bound then some (natOfDigits digits) else none

/-- The double nearest to `coefficient * 10 ^ exponent`, with a sign. Beyond `10 ^ 400` no power is
taken: the double is an infinity or zero at once. -/
def ofDecimal (negative : Bool) (coefficient : Nat) (exponent : Int) : Float :=
  let point : Int := (Nat.toDigits 10 coefficient).length + exponent
  if coefficient = 0 ∨ point < -400 then nearest negative 0 1
  else if 400 < point then nearest negative (Nat.pow 10 400) 1
  else if 0 ≤ exponent then nearest negative (coefficient * Nat.pow 10 exponent.toNat) 1
  else nearest negative coefficient (Nat.pow 10 (-exponent).toNat)

/-- Reads an exponent: nothing, or `e`, a sign or none, and digits. -/
def readExponent? : List Char → Option Int
  | [] => some 0
  | c :: rest =>
    let (negative, digits) := splitSign rest
    if (c == 'e' || c == 'E') && isDigits digits then
      some (if negative then -(natOfDigits digits : Int) else natOfDigits digits)
    else none

/-- Reads a number without its sign. -/
def readMagnitude? (negative : Bool) (s : List Char) : Option Float :=
  let whole := s.takeWhile isAsciiDigit
  let rest := s.dropWhile isAsciiDigit
  let (fraction, rest) := match rest with
    | '.' :: r => (r.takeWhile isAsciiDigit, r.dropWhile isAsciiDigit)
    | r => ([], r)
  if whole.isEmpty && fraction.isEmpty then none
  else (readExponent? rest).map fun e =>
    ofDecimal negative (natOfDigits (whole ++ fraction)) (e - fraction.length)

/-- Reads a number, an infinity or a NaN. -/
def readFloat? (s : List Char) : Option Float :=
  let (negative, rest) := splitSign s
  let name := String.ofList (rest.map Char.toLower)
  if name = "nan" then some (0 / 0)
  else if name = "inf" ∨ name = "infinity" then some (if negative then -1 / 0 else 1 / 0)
  else readMagnitude? negative rest

end Liquid.Decimal
