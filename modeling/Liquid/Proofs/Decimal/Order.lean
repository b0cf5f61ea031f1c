import Liquid.Value.Compare

/-!
# The order of doubles

Doubles are compared by their place among the doubles. Only a NaN has none, and both zeros have the
same.

- `Decimal.Place`, `Place.order`: the places, in the order of sign, exponent and significand.
- `Decimal.floatOrder?_eq`: two doubles are compared as their places.
- `Decimal.beq_eq_floatOrder?`: doubles are equal if neither has to stand in front of the other.
- `Decimal.floatOrder?_swap`, `Decimal.floatOrder?_trans`: the order does not contradict itself.
-/

namespace Liquid.Decimal

open Float.Model (UnpackedFloat)
open Value (floatOrder?)

/-! ### Places -/

/-- Where a double stands among the doubles. -/
structure Place where
  /-- Zero, or its sign, or twice its sign for an infinity. -/
  band : Int
  /-- The exponent, negated for a negative double. -/
  exponent : Int
  /-- The significand, negated for a negative double. -/
  significand : Int

/-- The order of places. -/
def Place.order : Place → Place → Ordering :=
  compareLex (compareOn Place.band)
    (compareLex (compareOn Place.exponent) (compareOn Place.significand))

instance : Std.TransCmp Place.order := inferInstanceAs (Std.TransCmp (compareLex _ _))

/-- The place of a double that is taken apart. -/
def placeOf? : UnpackedFloat → Option Place
  | .notANumber => none
  | .infinity .negative => some ⟨-2, 0, 0⟩
  | .finite .negative significand exponent _ => some ⟨-1, -exponent, -significand⟩
  | .zero _ => some ⟨0, 0, 0⟩
  | .finite .positive significand exponent _ => some ⟨1, exponent, significand⟩
  | .infinity .positive => some ⟨2, 0, 0⟩

/-- The place of a double. -/
def place? (x : Float) : Option Place := placeOf? x.toModel.unpack

theorem compare_congr {a b c d : Int} (hlt : a < b ↔ c < d) (hgt : b < a ↔ d < c) :
    compare a b = compare c d := by
  rcases Int.lt_trichotomy a b with h | h | h
  · rw [Int.compare_eq_lt.2 h, Int.compare_eq_lt.2 (hlt.1 h)]
  · rw [Int.compare_eq_eq.2 h, Int.compare_eq_eq.2 (by omega)]
  · rw [Int.compare_eq_gt.2 h, Int.compare_eq_gt.2 (hgt.1 h)]

theorem compare_neg (a b : Int) : compare (-a) (-b) = compare b a :=
  compare_congr (by omega) (by omega)

theorem compare_natCast (m n : Nat) : compare (m : Int) (n : Int) = compare m n := by
  rcases Nat.lt_trichotomy m n with h | h | h
  · rw [Nat.compare_eq_lt.2 h, Int.compare_eq_lt.2 (Int.ofNat_lt.2 h)]
  · rw [h, Nat.compare_eq_eq.2 rfl, Int.compare_eq_eq.2 rfl]
  · rw [Nat.compare_eq_gt.2 h, Int.compare_eq_gt.2 (Int.ofNat_lt.2 h)]

/-- Doubles that are taken apart are compared by their places. -/
theorem compare_eq (x y : UnpackedFloat) :
    x.compare y = (placeOf? x).bind fun p => (placeOf? y).map p.order := by
  rcases x with (_ | _) | _ | (_ | _) | ⟨_ | _, m, e, _⟩ <;>
    rcases y with (_ | _) | _ | (_ | _) | ⟨_ | _, n, f, _⟩ <;> try rfl
  -- only finite doubles with the same sign remain
  · show some ((compare e f).then (compare m n)).swap =
      some ((compare (-e) (-f)).then (compare (-(m : Int)) (-n)))
    rw [compare_neg, compare_neg, compare_natCast, Ordering.swap_then, Int.compare_swap,
      Nat.compare_swap]
  · show some ((compare e f).then (compare m n)) =
      some ((compare e f).then (compare (m : Int) n))
    rw [compare_natCast]

/-! ### Comparing doubles -/

theorem lt_iff {x y : Float} : x < y ↔
    ((place? x).bind fun p => (place? y).map p.order) = some .lt := by
  show decide ((x.toModel.unpack.compare y.toModel.unpack == some .lt) = true) = true ↔ _
  rw [decide_eq_true_iff, beq_iff_eq, compare_eq]
  rfl

theorem beq_eq (x y : Float) : (x == y) =
    (((place? x).bind fun p => (place? y).map p.order) == some .eq) := by
  show (x.toModel.unpack.compare y.toModel.unpack == some .eq) = _
  rw [compare_eq]
  rfl

/-- Two doubles are compared as their places. -/
theorem floatOrder?_eq (x y : Float) :
    floatOrder? x y = (place? x).bind fun p => (place? y).map p.order := by
  simp only [floatOrder?, lt_iff, beq_eq]
  cases place? x with
  | none => cases place? y <;> rfl
  | some p =>
    cases place? y with
    | none => rfl
    | some q =>
      have hswap : q.order p = (p.order q).swap := Std.OrientedCmp.eq_swap
      simp only [Option.bind_some, Option.map_some, hswap]
      cases p.order q <;> rfl

/-- Doubles are equal if neither has to stand in front of the other. -/
theorem beq_eq_floatOrder? (x y : Float) : (x == y) = (floatOrder? x y == some .eq) := by
  rw [floatOrder?_eq, beq_eq]

theorem floatOrder?_swap (x y : Float) :
    floatOrder? y x = (floatOrder? x y).map Ordering.swap := by
  rw [floatOrder?_eq, floatOrder?_eq]
  cases place? x with
  | none => cases place? y <;> rfl
  | some p =>
    cases place? y with
    | none => rfl
    | some q => exact congrArg some Std.OrientedCmp.eq_swap

theorem beq_comm (x y : Float) : (x == y) = (y == x) := by
  rw [beq_eq_floatOrder?, beq_eq_floatOrder?, floatOrder?_swap x y]
  cases floatOrder? x y with
  | none => rfl
  | some o => cases o <;> rfl

/-- Every double that is a number has a place. -/
theorem exists_place {x : Float} (hx : x.isNaN = false) : ∃ p, place? x = some p := by
  change x.toModel.unpack.isNaN = false at hx
  unfold place?
  cases hplace : x.toModel.unpack with
  | notANumber =>
    rw [hplace] at hx
    cases hx
  | infinity s => cases s <;> exact ⟨_, rfl⟩
  | zero s => exact ⟨_, rfl⟩
  | finite s m e h => cases s <;> exact ⟨_, rfl⟩

/-- Of three numbers the first does not have to stand behind the last if it does not have to stand
behind the second, nor the second behind the last. -/
theorem floatOrder?_trans {x y z : Float} (hx : x.isNaN = false) (hy : y.isNaN = false)
    (hz : z.isNaN = false) (hxy : floatOrder? x y ≠ some .gt) (hyz : floatOrder? y z ≠ some .gt) :
    floatOrder? x z ≠ some .gt := by
  obtain ⟨p, hp⟩ := exists_place hx
  obtain ⟨q, hq⟩ := exists_place hy
  obtain ⟨r, hr⟩ := exists_place hz
  simp only [floatOrder?_eq, hp, hq, hr, Option.bind_some, Option.map_some, ne_eq,
    Option.some.injEq, ← Ordering.isLE_iff_ne_gt] at hxy hyz ⊢
  exact Std.TransCmp.isLE_trans hxy hyz

end Liquid.Decimal
