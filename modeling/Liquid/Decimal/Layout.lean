import Liquid.Decimal.Shortest

/-!
# Writing doubles

How a double is written, once its shortest digits are chosen.

- `Layout`: the decisions of one output format, as data.
- `Layout.write`: the text of a double in that format.
- `plain`: the format of template output: always positional, no exponent, no needless point.
- `json`: the format of JSON output: positional with a point near one, else with an exponent.
- `fixed`: a given number of places, correctly rounded.
-/

namespace Liquid.Decimal

/-- The decisions of one way to write doubles. -/
structure Layout where
  /-- The point positions (`10 ^ (k - 1) ≤ |x| < 10 ^ k`) that are written without exponent; all
  of them if there is no bound. -/
  pointRange : Option (Int × Int)
  /-- Whether a whole number is written with `.0`. -/
  wholePoint : Bool
  /-- Which digits are chosen when two choices are equally near. -/
  tie : Tie
  /-- The text of a NaN. -/
  nan : String
  /-- The text of an infinity without its sign. -/
  infinite : String
  /-- Whether a negative infinity has a sign. -/
  infiniteSign : Bool

/-- Digits with a point after the first `k` of them, filled up with zeros. -/
def withPoint (wholePoint : Bool) (digits : List Char) (k : Int) : List Char :=
  let n : Int := digits.length
  if k ≤ 0 then '0' :: '.' :: (List.replicate (-k).toNat '0' ++ digits)
  else if n ≤ k then
    digits ++ List.replicate (k - n).toNat '0' ++ if wholePoint then ['.', '0'] else []
  else digits.take k.toNat ++ '.' :: digits.drop k.toNat

/-- Digits with a point after the first of them and an exponent. A positive exponent has a
sign. -/
def withExponent (digits : List Char) (k : Int) : List Char :=
  let mantissa := match digits with
    | [] => []
    | [d] => [d]
    | d :: rest => d :: '.' :: rest
  let e := k - 1
  mantissa ++ 'e' :: (if e < 0 then '-' else '+') :: digitsOf e.natAbs

/-- The text of a nonnegative finite double. -/
def Layout.writeMagnitude (layout : Layout) (x : Magnitude) : List Char :=
  if x.significand = 0 then if layout.wholePoint then ['0', '.', '0'] else ['0']
  else
    let d := Digits.shortest layout.tie x
    let digits := digitsOf d.coefficient
    let k := (digits.length : Int) + d.exponent
    match layout.pointRange with
    | none => withPoint layout.wholePoint digits k
    | some (low, high) =>
      if low ≤ k && k ≤ high then withPoint layout.wholePoint digits k else withExponent digits k

/-- The text of a double. -/
def Layout.write (layout : Layout) (x : Float) : List Char :=
  match Kind.ofFloat x with
  | .nan => layout.nan.toList
  | .infinite negative =>
    (if negative && layout.infiniteSign then ['-'] else []) ++ layout.infinite.toList
  | .finite negative m => (if negative then ['-'] else []) ++ layout.writeMagnitude m

/-- Template output: positional whatever the size, `3` for a whole number, ties away from
zero. -/
def plain : Layout := ⟨none, false, .away, "NaN", "inf", true⟩

/-- JSON output: positional with a point from `0.00001` up to below `10 ^ 16`, else with an
exponent; a number that is not finite is `null`. -/
def json : Layout := ⟨some (-4, 16), true, .toEven, "null", "null", false⟩

/-- The text of a double with exactly `places` digits after the point. The exact value is rounded,
a tie going to the even digit. -/
def fixed (places : Nat) (x : Float) : List Char :=
  match Kind.ofFloat x with
  | .nan => ['N', 'a', 'N']
  | .infinite negative => (if negative then ['-'] else []) ++ ['i', 'n', 'f']
  | .finite negative m =>
    let scaled := m.significand * Nat.pow 10 places
    let n := if 0 ≤ m.exponent then scaled <<< m.exponent.toNat
      else roundDiv .toEven scaled (1 <<< (-m.exponent).toNat)
    let digits := digitsOf n
    let padded := List.replicate (places + 1 - digits.length) '0' ++ digits
    let whole := padded.length - places
    (if negative then ['-'] else [])
      ++ padded.take whole ++ if places = 0 then [] else '.' :: padded.drop whole

end Liquid.Decimal
