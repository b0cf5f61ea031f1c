import Liquid.Filter.Basic
import Liquid.Decimal.Rounding

/-!
# Filters on numbers

Two integers give an integer, or nil when the result needs more than 64 bits; as soon as one
operand is a double, so is the result.

- `Operation`: what an operation does to integers and to doubles.
- `Operation.quotient`, `Operation.remainder`: division rounds down, and a remainder has the sign
  of the divisor. Both correct what a division without the fraction gives. Division by zero gives
  nil.
- `Filter.arithmetic`: the filters, by name.
-/

namespace Liquid

open Liquid.Decimal

/-- An operation on numbers. -/
structure Operation where
  /-- The result for integers, unless it needs more than 64 bits. -/
  onIntegers : Int64 → Int64 → Option Int64
  /-- The result for doubles. -/
  onFloats : Float → Float → Float

namespace Operation

/-- Addition. -/
def sum : Operation := ⟨fun a b => int64? (a.toInt + b.toInt), (· + ·)⟩

/-- Subtraction. -/
def difference : Operation := ⟨fun a b => int64? (a.toInt - b.toInt), (· - ·)⟩

/-- Multiplication. -/
def product : Operation := ⟨fun a b => int64? (a.toInt * b.toInt), (· * ·)⟩

/-- The quotient of two integers without its fraction. There is none of a division by zero, nor
where it needs more than 64 bits. -/
def truncatedQuotient? (a b : Int64) : Option Int64 :=
  if b = 0 then none else int64? (a.toInt.tdiv b.toInt)

/-- What the quotient without its fraction leaves of the dividend, where there is such a quotient.
-/
def truncatedRemainder? (a b : Int64) : Option Int64 :=
  (truncatedQuotient? a b).map fun _ => a % b

/-- Whether one of two integers is negative and the other is not. -/
def differInSign (a b : Int64) : Bool := decide (a < 0) != decide (b < 0)

/-- Division; that of integers rounds down. The quotient without its fraction lies above the exact
one where that is negative and no integer. -/
def quotient : Operation :=
  ⟨fun a b => (truncatedQuotient? a b).map fun q =>
    if a % b != 0 && differInSign a b then q - 1 else q, (· / ·)⟩

/-- The remainder of a division that rounds down; it has the sign of the divisor. -/
def remainder : Operation :=
  ⟨fun a b => (truncatedRemainder? a b).map fun r =>
    if r != 0 && differInSign r b then r + b else r,
   fun a b => a - b * toWhole .down (a / b)⟩

/-- The result for two numbers; nil where integers have none. -/
def apply (op : Operation) : Value.Number → Value.Number → Value
  | .integer a, .integer b => ((op.onIntegers a b).map Value.integer).getD .nil
  | a, b => .float (op.onFloats a.toFloat b.toFloat)

end Operation

namespace Filter

/-- Applies an operation to the value and the argument. What is no number counts as zero. -/
def operation (op : Operation) : Filter := fun value arguments =>
  .ok (op.apply value.toNumber (arguments.head?.getD .nil).toNumber)

/-- Applies an operation, unless the argument is zero or missing. -/
def division (op : Operation) : Filter := fun value arguments =>
  match arguments with
  | [] => .ok .nil
  | divisor :: _ =>
    if divisor.toNumber.toFloat == 0 then .ok .nil
    else .ok (op.apply value.toNumber divisor.toNumber)

/-- Rounds to a whole number, which becomes an integer. -/
def toInteger (direction : Direction) (n : Value.Number) : Value :=
  match n with
  | .integer i => .integer i
  | .float x => .integer (toInt64 (toWhole direction x))

/-- Rounds to the nearest whole number, or to as many places as the argument says. No more than
`2 ^ 31 - 1` places are asked for. -/
def round : Filter := fun value arguments =>
  let places := ((integerArgument? arguments 0).getD 0).toInt
  match value.toNumber with
  | .float x =>
    if 0 < places then .ok (.float (toPlaces (min places 0x7FFFFFFF).toNat x))
    else .ok (toInteger .nearest (.float x))
  | n => .ok n.toValue

/-- The number without its sign; the least integer becomes the greatest one. -/
def magnitude : Value.Number → Value
  | .integer i => .ofNat i.toInt.natAbs
  | .float x => .float x.abs

/-- The filters on numbers. -/
def arithmetic : List (String × Filter) :=
  [("plus", operation .sum),
   ("minus", operation .difference),
   ("times", operation .product),
   ("divided_by", division .quotient),
   ("modulo", division .remainder),
   ("round", round),
   ("ceil", ofValue fun v => toInteger .up v.toNumber),
   ("floor", ofValue fun v => toInteger .down v.toNumber),
   ("abs", ofValue fun v => magnitude v.toNumber)]

end Filter

end Liquid
