/-!
# Rational numbers and doubles

A finite double is a whole number times a power of two, and every nonnegative rational has a
nearest double. Both directions are exact arithmetic on naturals.

- `Magnitude`: a finite double without its sign, as `significand * 2 ^ exponent`.
- `Kind`: a double taken apart; `Kind.ofFloat` reads it off the bits.
- `roundDiv`: a quotient rounded to the nearest whole number, with the rule for a tie.
- `nearestBits`: the bits of the double nearest to a quotient, a tie going to the even one.
- `ofInt64`, `toInt64`: the nearest double of an integer, and the integer part of a double,
  clamped to 64 bits.
-/

namespace Liquid.Decimal

/-- A nonnegative finite double: `significand * 2 ^ exponent`. -/
structure Magnitude where
  /-- The significand, with its leading bit. -/
  significand : Nat
  /-- The power of two that the significand is multiplied by. -/
  exponent : Int
  /-- The next smaller double is only half as far away as the next greater one. -/
  atBoundary : Bool
  deriving DecidableEq, Repr

/-- A double taken apart. -/
inductive Kind where
  /-- Not a number. -/
  | nan
  /-- An infinity. -/
  | infinite (negative : Bool)
  /-- A finite double; zero has a sign too. -/
  | finite (negative : Bool) (magnitude : Magnitude)
  deriving DecidableEq, Repr

/-- The bit of the sign of a double. The integers of 64 bits reach from minus this to one less. -/
def signBit : Nat := 0x8000000000000000

/-- The leading bit of a significand. It is not stored where the exponent field is not zero. -/
def leadingBit : Nat := 0x10000000000000

/-- Reads the sign, the exponent field and the fraction of a double. -/
def Kind.ofBits (bits : UInt64) : Kind :=
  let n : Nat := bits.toNat
  let negative := n / signBit == 1
  let field : Nat := n / leadingBit % 0x800
  let fraction : Nat := n % leadingBit
  if field = 2047 then
    if fraction = 0 then .infinite negative else .nan
  else if field = 0 then .finite negative ⟨fraction, -1074, false⟩
  else .finite negative ⟨leadingBit + fraction, (field : Int) - 1075, fraction == 0 && field > 1⟩

/-- Takes a double apart. -/
def Kind.ofFloat (x : Float) : Kind := Kind.ofBits x.toBits

/-- Which neighbour a value exactly half way between two goes to. -/
inductive Tie where
  /-- The even one. -/
  | toEven
  /-- The one farther from zero. -/
  | away
  deriving DecidableEq, Repr

/-- `num / den` rounded to the nearest whole number. -/
def roundDiv (tie : Tie) (num den : Nat) : Nat :=
  let q := num / den
  let twice := 2 * (num % den)
  if twice < den then q
  else if den < twice then q + 1
  else match tie with
    | .away => q + 1
    | .toEven => if q % 2 = 0 then q else q + 1

/-- The bits of the positive infinity. -/
def infinityBits : Nat := 0x7FF0000000000000

/-- The bits of the double nearest to `num / den`, a tie going to the even one; an infinity when
the quotient is beyond the greatest double. -/
def nearestBits (num den : Nat) : Nat :=
  if num = 0 then 0
  else
    -- `2 ^ e ≤ num / den < 2 ^ (e + 1)` for one of two candidates
    let guess : Int := (num.log2 : Int) - den.log2
    let small : Bool :=
      if 0 ≤ guess then num < den <<< guess.toNat else num <<< (-guess).toNat < den
    let e := if small then guess - 1 else guess
    let q := max (e - 52) (-1074)
    let m :=
      if 0 ≤ q then roundDiv .toEven num (den <<< q.toNat)
      else roundDiv .toEven (num <<< (-q).toNat) den
    min ((q + 1074).toNat * leadingBit + m) infinityBits

/-- The double nearest to `num / den`, with a sign. -/
def nearest (negative : Bool) (num den : Nat) : Float :=
  Float.ofBits (UInt64.ofNat (nearestBits num den + if negative then signBit else 0))

/-- The double nearest to an integer, a tie going to the even one. -/
def ofInt64 (i : Int64) : Float :=
  if i < 0 then -(UInt64.ofNat i.toInt.natAbs).toFloat else (UInt64.ofNat i.toInt.toNat).toFloat

/-- The integer part of a double, clamped to 64 bits; `0` for a NaN. -/
def toInt64 (x : Float) : Int64 :=
  if x < 0 then Int64.ofInt (-(min (-x).toUInt64.toNat signBit : Nat))
  else Int64.ofInt (min x.toUInt64.toNat (signBit - 1) : Nat)

end Liquid.Decimal
