import Liquid.Decimal.Binary64

/-!
# Rounding doubles

- `Direction`: which whole number a double is rounded to.
- `toWhole`: the whole number as a double; NaN and the infinities stay, and a zero keeps the sign
  of what was rounded to it.
- `tenToThe`: a power of ten by repeated squaring, with the rounding errors that this has beyond
  `10 ^ 22`.
- `toPlaces`: a double rounded to a number of decimal places.
-/

namespace Liquid.Decimal

/-- Which whole number a double is rounded to. -/
inductive Direction where
  /-- The nearest one, half a unit going away from zero. -/
  | nearest
  /-- The least one that is not below. -/
  | up
  /-- The greatest one that is not above. -/
  | down
  deriving DecidableEq, Repr

/-- `num / den` rounded to a whole number, for a quotient that has a sign besides. -/
def Direction.roundQuotient (direction : Direction) (negative : Bool) (num den : Nat) : Nat :=
  match direction, negative with
  | .nearest, _ => roundDiv .away num den
  | .up, false | .down, true => (num + den - 1) / den
  | .up, true | .down, false => num / den

/-- A double rounded to a whole number. -/
def toWhole (direction : Direction) (x : Float) : Float :=
  match Kind.ofFloat x with
  | .finite negative m =>
    if 0 ≤ m.exponent then x
    else
      nearest negative
        (direction.roundQuotient negative m.significand (1 <<< (-m.exponent).toNat)) 1
  | _ => x

/-- `acc * base ^ n` by repeated squaring. -/
def powerBySquaring (acc base : Float) (n : Nat) : Float :=
  if n = 0 then acc
  else powerBySquaring (if n % 2 = 1 then acc * base else acc) (base * base) (n / 2)

/-- A power of ten. -/
def tenToThe (n : Nat) : Float := powerBySquaring 1 10 n

/-- A double rounded to decimal places; it is scaled up, rounded and scaled down, each time with
the error of double arithmetic. -/
def toPlaces (places : Nat) (x : Float) : Float :=
  let factor := tenToThe places
  toWhole .nearest (x * factor) / factor

end Liquid.Decimal
