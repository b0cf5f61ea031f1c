import Liquid.Decimal.Binary64

/-!
# Shortest decimal digits

The fewest decimal digits that read back as a given double, and of those the ones nearest to its
value.

- `Digits`: a positive decimal number, `coefficient * 10 ^ exponent`.
- `Digits.shortest`: on the grids of one, two, … digits the two neighbours of the value are
  tested against the interval of numbers that round to the double; the first grid with a hit wins,
  of two hits the nearer, and an exact tie is decided by the caller.

All comparisons are exact: a value and the ends of its interval are kept as numerators over one
denominator.
-/

namespace Liquid.Decimal

/-- A positive decimal number: `coefficient * 10 ^ exponent`. -/
structure Digits where
  /-- The digits, read as a whole number. -/
  coefficient : Nat
  /-- The power of ten of the last digit. -/
  exponent : Int
  deriving DecidableEq, Repr

/-- The decimal digits of a whole number, most significant first. -/
def digitsOf (n : Nat) : List Char := Nat.toDigits 10 n

/-- Takes the zeros off the end of a coefficient; `fuel` bounds their number. -/
def Digits.stripZeros : (fuel : Nat) → Digits → Digits
  | 0, d => d
  | fuel + 1, d =>
    if d.coefficient % 10 = 0 then stripZeros fuel ⟨d.coefficient / 10, d.exponent + 1⟩ else d

/-- The numbers that round to a double: a value with the two ends of its interval, all three over
`den`. -/
structure Interval where
  /-- The numerator of the lower end. -/
  low : Nat
  /-- The numerator of the value. -/
  mid : Nat
  /-- The numerator of the upper end. -/
  high : Nat
  /-- The common denominator. -/
  den : Nat
  /-- Whether the ends belong to the interval. -/
  closed : Bool

/-- The numbers that round to a double. The ends lie half way to its neighbours and belong to the
interval when the significand is even. -/
def Magnitude.interval (x : Magnitude) : Interval :=
  let q := x.exponent - 2
  let up := if 0 ≤ q then 1 <<< q.toNat else 1
  let m := x.significand
  { low := (4 * m - if x.atBoundary then 1 else 2) * up
    mid := 4 * m * up
    high := (4 * m + 2) * up
    den := if 0 ≤ q then 1 else 1 <<< (-q).toNat
    closed := m % 2 == 0 }

/-- The position of the point: `10 ^ (k - 1) ≤ num / den < 10 ^ k`. -/
def pointPosition (num den : Nat) : Int :=
  if den ≤ num then (digitsOf (num / den)).length
  else
    let d := (digitsOf (den / num)).length
    if den ≤ num * Nat.pow 10 (d - 1) then 1 - ((d - 1 : Nat) : Int) else 1 - (d : Int)

/-- The multiple of `10 ^ exponent` in the interval that is nearest to its value, if one of the
two neighbours of the value is in it. -/
def Interval.onGrid? (tie : Tie) (x : Interval) (exponent : Int) : Option Digits :=
  let scale := if exponent < 0 then Nat.pow 10 (-exponent).toNat else 1
  let unit := x.den * if exponent < 0 then 1 else Nat.pow 10 exponent.toNat
  let holds (c : Nat) : Bool :=
    if x.closed then x.low * scale ≤ c * unit && c * unit ≤ x.high * scale
    else x.low * scale < c * unit && c * unit < x.high * scale
  let below := x.mid * scale / unit
  match holds below, holds (below + 1) with
  | true, true => some ⟨roundDiv tie (x.mid * scale) unit, exponent⟩
  | true, false => some ⟨below, exponent⟩
  | false, true => some ⟨below + 1, exponent⟩
  | false, false => none

/-- The grids tried: `count` more of them, each ten times as fine as the one before. -/
def Interval.search (tie : Tie) (x : Interval) : (count : Nat) → (exponent : Int) → Digits
  | 0, exponent => ⟨x.mid, exponent⟩
  | count + 1, exponent =>
    match x.onGrid? tie exponent with
    | some d => d
    | none => x.search tie count (exponent - 1)

/-- The fewest digits that read back as the double, nearest to its value. The double is not
zero. -/
def Digits.shortest (tie : Tie) (x : Magnitude) : Digits :=
  let i := x.interval
  Digits.stripZeros 400 (i.search tie 17 (pointPosition i.mid i.den - 1))

end Liquid.Decimal
