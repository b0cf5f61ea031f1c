import Mathlib
import Liquid.Proofs.Decimal.Integers
import Liquid.Proofs.Filter.Standard

/-!
# Arithmetic of integers

The filters on two integers give the exact result, or nil where that needs more than 64 bits.
Division starts from the quotient without its fraction and corrects it by one, and the remainder by
the divisor; neither correction leaves the range of 64 bits.

- `Operation.FloorDivision`: a quotient that rounds down, with its remainder.
- `Operation.truncated_spec`: the quotient and the remainder that are corrected.
- `Operation.toInt_sub_one`, `Operation.toInt_add_of_differInSign`: the corrections are exact.
- `Operation.exists_floorDivision`: quotient and remainder.
- `Filter.IsExactly`, `Filter.integers_exact_or_nil`: the filters.
-/

namespace Liquid

open Decimal

namespace Operation

/-! ### Division that rounds down -/

/-- A quotient that rounds down, and the remainder: it is smaller than the divisor and has its
sign. -/
structure FloorDivision (a b q m : Int) : Prop where
  /-- Quotient and remainder make up the dividend. -/
  eq : q * b + m = a
  /-- The remainder is smaller than the divisor. -/
  abs_lt : |m| < |b|
  /-- The remainder is zero or has the sign of the divisor. -/
  sign : m = 0 ∨ m.sign = b.sign

/-- The remainder lies between zero and the divisor. -/
theorem floorDivision_iff {a b q m : Int} :
    FloorDivision a b q m ↔ q * b + m = a ∧ (0 ≤ m ∧ m < b ∨ b < m ∧ m ≤ 0) := by
  constructor
  · rintro ⟨heq, habs, hsign⟩
    rw [Int.abs_eq_natAbs, Int.abs_eq_natAbs] at habs
    refine ⟨heq, ?_⟩
    rcases Int.lt_trichotomy m 0 with hm | rfl | hm
    · have hb : b < 0 := by
        rwa [Int.sign_eq_neg_one_of_neg hm, or_iff_right (by omega), eq_comm,
          Int.sign_eq_neg_one_iff_neg] at hsign
      omega
    · omega
    · have hb : 0 < b := by
        rwa [Int.sign_eq_one_of_pos hm, or_iff_right (by omega), eq_comm,
          Int.sign_eq_one_iff_pos] at hsign
      omega
  · rintro ⟨heq, ⟨hm, hlt⟩ | ⟨hlt, hm⟩⟩
    · refine ⟨heq, by rwa [abs_of_nonneg hm, abs_of_pos (by omega)], ?_⟩
      rcases hm.eq_or_lt with rfl | hm
      · exact .inl rfl
      · rw [Int.sign_eq_one_of_pos hm, Int.sign_eq_one_of_pos (by omega)]
        exact .inr rfl
    · refine ⟨heq, by rw [abs_of_nonpos hm, abs_of_neg (by omega)]; omega, ?_⟩
      rcases hm.eq_or_lt with rfl | hm
      · exact .inl rfl
      · rw [Int.sign_eq_neg_one_of_neg hm, Int.sign_eq_neg_one_of_neg (by omega)]
        exact .inr rfl

/-- Such a quotient is the exact one, rounded down. -/
theorem FloorDivision.eq_floor {a b q m : Int} (h : FloorDivision a b q m) :
    q = ⌊(a : ℚ) / b⌋ := by
  obtain ⟨rfl, hm⟩ := floorDivision_iff.1 h
  have hb : (b : ℚ) ≠ 0 := Int.cast_ne_zero.2 (by omega)
  have hsplit : ((q * b + m : Int) : ℚ) / b = q + m / b := by
    push_cast
    field_simp
  have hfraction : ⌊(m : ℚ) / b⌋ = 0 := by
    rw [Int.floor_eq_zero_iff, Set.mem_Ico]
    rcases hm with ⟨hm, hlt⟩ | ⟨hlt, hm⟩
    · have hpos : (0 : ℚ) < b := Int.cast_pos.2 (by omega)
      exact ⟨div_nonneg (Int.cast_nonneg hm) hpos.le, (div_lt_one hpos).2 (Int.cast_lt.2 hlt)⟩
    · have hneg : (b : ℚ) < 0 := Int.cast_lt_zero.2 (by omega)
      exact ⟨div_nonneg_of_nonpos (Int.cast_nonpos.2 hm) hneg.le,
        (div_lt_one_of_neg hneg).2 (Int.cast_lt.2 hlt)⟩
  rw [hsplit, Int.floor_intCast_add, hfraction, Int.add_zero]

/-- A remainder with the sign of the divisor is that of a quotient that rounds down. -/
theorem FloorDivision.of_same_sign {a b q r : Int} (heq : q * b + r = a)
    (hr : r.natAbs < b.natAbs) (hsign : r = 0 ∨ (r < 0 ↔ b < 0)) : FloorDivision a b q r :=
  floorDivision_iff.2 ⟨heq, by omega⟩

/-- Any other remainder becomes one when the divisor is added and the quotient is one less. -/
theorem FloorDivision.of_corrected {a b q r : Int} (heq : q * b + r = a)
    (hr : r.natAbs < b.natAbs) (hzero : r ≠ 0) (hsign : ¬(r < 0 ↔ b < 0)) :
    FloorDivision a b (q - 1) (r + b) := by
  refine floorDivision_iff.2 ⟨?_, by omega⟩
  rw [Int.sub_mul]
  omega

/-! ### Without the fraction, and corrected -/

theorem differInSign_iff {a b : Int64} :
    differInSign a b = true ↔ ¬(a.toInt < 0 ↔ b.toInt < 0) := by
  rw [differInSign, bne_iff_ne, ne_eq, decide_eq_decide, int64_neg_iff, int64_neg_iff]

theorem ne_zero_iff {a : Int64} : (a != 0) = true ↔ a.toInt ≠ 0 := by
  rw [bne_iff_ne, ne_eq, ← Int64.toInt_inj, Int64.toInt_zero]

/-- Only one quotient without its fraction needs more than 64 bits. -/
theorem tdiv_fits {a b : Int64} (hmin : ¬(a = Int64.minValue ∧ b = -1)) :
    -2 ^ 63 ≤ a.toInt.tdiv b.toInt ∧ a.toInt.tdiv b.toInt < 2 ^ 63 := by
  have hlow := Int64.le_toInt a
  have hhigh := Int64.toInt_lt a
  have habs := Int.natAbs_tdiv a.toInt b.toInt
  by_cases htwo : 2 ≤ b.toInt.natAbs
  · have hle : a.toInt.natAbs / b.toInt.natAbs ≤ 2 ^ 63 / 2 :=
      Nat.div_le_div (by omega) htwo (by omega)
    have heq : a.toInt.natAbs.div b.toInt.natAbs = a.toInt.natAbs / b.toInt.natAbs := rfl
    omega
  · rcases (by omega : b.toInt = 0 ∨ b.toInt = 1 ∨ b.toInt = -1) with hb | hb | hb
    · rw [hb, Int.tdiv_zero]
      omega
    · rw [hb, Int.tdiv_one]
      omega
    · have hne : a.toInt ≠ -2 ^ 63 := fun ha => hmin
        ⟨Int64.toInt_inj.1 (ha.trans Int64.toInt_minValue.symm), Int64.toInt_inj.1 hb⟩
      rw [hb, Int.tdiv_neg, Int.tdiv_one]
      omega

theorem truncatedQuotient?_eq_some {a b : Int64} (hb : b ≠ 0)
    (hmin : ¬(a = Int64.minValue ∧ b = -1)) :
    ∃ q, truncatedQuotient? a b = some q ∧ q.toInt = a.toInt.tdiv b.toInt := by
  rw [truncatedQuotient?, if_neg hb]
  exact int64?_eq_some (tdiv_fits hmin)

theorem truncatedQuotient?_eq_none {a b : Int64} (h : b = 0 ∨ a = Int64.minValue ∧ b = -1) :
    truncatedQuotient? a b = none := by
  rcases h with rfl | ⟨rfl, rfl⟩
  · rfl
  · rfl

/-- Where there is a quotient without its fraction, the machine can divide, and quotient and
remainder make up the dividend; the remainder has the sign of the dividend. -/
theorem truncated_spec {a b q : Int64} (h : truncatedQuotient? a b = some q) :
    (b ≠ 0 ∧ ¬(a = Int64.minValue ∧ b = -1)) ∧
      q.toInt * b.toInt + (a % b).toInt = a.toInt ∧
      (a % b).toInt.natAbs < b.toInt.natAbs ∧
      ((a % b).toInt ≠ 0 → ((a % b).toInt < 0 ↔ a.toInt < 0)) := by
  have hdefined : ¬(b = 0 ∨ a = Int64.minValue ∧ b = -1) := fun hnone => by
    cases h.symm.trans (truncatedQuotient?_eq_none hnone)
  obtain ⟨hb, hmin⟩ := not_or.1 hdefined
  obtain ⟨q', hq', htdiv⟩ := truncatedQuotient?_eq_some hb hmin
  cases h.symm.trans hq'
  have hb' : b.toInt ≠ 0 := fun h => hb (Int64.toInt_inj.1 h)
  rw [htdiv, Int64.toInt_mod]
  refine ⟨⟨hb, hmin⟩, Int.tdiv_mul_add_tmod _ _, ?_, fun hr => ?_⟩
  · rw [Int.natAbs_tmod]
    exact Nat.mod_lt _ (by omega)
  · have hsign := Int.sign_tmod a.toInt b.toInt
    rw [if_neg (fun hdvd => hr (Int.tmod_eq_zero_of_dvd hdvd))] at hsign
    rw [← Int.sign_eq_neg_one_iff_neg, ← Int.sign_eq_neg_one_iff_neg, hsign]

/-- One less than a quotient that leaves a remainder does not need more than 64 bits. -/
theorem toInt_sub_one {a b q : Int64} (h : truncatedQuotient? a b = some q)
    (hr : (a % b).toInt ≠ 0) : (q - 1).toInt = q.toInt - 1 := by
  obtain ⟨-, heq, hlt, -⟩ := truncated_spec h
  have hlow := Int64.le_toInt a
  have hhigh := Int64.toInt_lt a
  have hhigh' := Int64.toInt_lt q
  -- else the divisor, which is at least two, would make the dividend too large
  have hq : -2 ^ 63 < q.toInt := by
    by_contra hq
    have hq' : q.toInt = -2 ^ 63 := by
      have := Int64.le_toInt q
      omega
    rw [hq'] at heq
    omega
  rw [Int64.toInt_sub]
  exact Int.bmod_eq_of_le (by simp; omega) (by simp; omega)

/-- The sum of two integers of different signs does not need more than 64 bits. -/
theorem toInt_add_of_differInSign {a b : Int64} (h : differInSign a b = true) :
    (a + b).toInt = a.toInt + b.toInt := by
  have hsign := differInSign_iff.1 h
  have hlow := Int64.le_toInt a
  have hhigh := Int64.toInt_lt a
  have hlow' := Int64.le_toInt b
  have hhigh' := Int64.toInt_lt b
  rw [Int64.toInt_add]
  exact Int.bmod_eq_of_le (by omega) (by omega)

theorem truncatedRemainder?_eq {a b : Int64} {q? : Option Int64} (h : truncatedQuotient? a b = q?) :
    truncatedRemainder? a b = q?.map fun _ => a % b := by
  rw [← h]
  rfl

/-- Quotient and remainder are corrected under the same condition. -/
theorem onIntegers_eq {a b q : Int64} (h : truncatedQuotient? a b = some q) :
    quotient.onIntegers a b =
        some (if a % b != 0 && differInSign (a % b) b then q - 1 else q) ∧
      remainder.onIntegers a b =
        some (if a % b != 0 && differInSign (a % b) b then a % b + b else a % b) := by
  obtain ⟨-, -, -, hsign⟩ := truncated_spec h
  have hcondition : (a % b != 0 && differInSign (a % b) b) = (a % b != 0 && differInSign a b) := by
    rw [Bool.eq_iff_iff, Bool.and_eq_true, Bool.and_eq_true, differInSign_iff, differInSign_iff]
    exact and_congr_right fun hr => by rw [hsign (ne_zero_iff.1 hr)]
  refine ⟨?_, congrArg (Option.map _) (truncatedRemainder?_eq h)⟩
  rw [hcondition]
  exact congrArg (Option.map _) h

/-- Where the machine can divide, quotient and remainder are those of a division that rounds
down. -/
theorem exists_floorDivision {a b : Int64} (hb : b ≠ 0) (hmin : ¬(a = Int64.minValue ∧ b = -1)) :
    ∃ q m, quotient.onIntegers a b = some q ∧ remainder.onIntegers a b = some m ∧
      FloorDivision a.toInt b.toInt q.toInt m.toInt := by
  obtain ⟨q, hq, -⟩ := truncatedQuotient?_eq_some hb hmin
  obtain ⟨-, heq, hlt, -⟩ := truncated_spec hq
  obtain ⟨hquotient, hremainder⟩ := onIntegers_eq hq
  refine ⟨_, _, hquotient, hremainder, ?_⟩
  by_cases hcorrected : (a % b != 0 && differInSign (a % b) b) = true
  · obtain ⟨hne, hdiffer⟩ := Bool.and_eq_true_iff.1 hcorrected
    rw [if_pos hcorrected, if_pos hcorrected, toInt_sub_one hq (ne_zero_iff.1 hne),
      toInt_add_of_differInSign hdiffer]
    exact .of_corrected heq hlt (ne_zero_iff.1 hne) (differInSign_iff.1 hdiffer)
  · rw [if_neg hcorrected, if_neg hcorrected]
    rw [Bool.and_eq_true, ne_zero_iff, differInSign_iff] at hcorrected
    exact .of_same_sign heq hlt (by tauto)

example : quotient.onIntegers (-7) 2 = some (-4) ∧ remainder.onIntegers (-7) 2 = some 1 := by decide

theorem onIntegers_eq_none {a b : Int64} (h : b = 0 ∨ a = Int64.minValue ∧ b = -1) :
    quotient.onIntegers a b = none ∧ remainder.onIntegers a b = none := by
  have hnone := truncatedQuotient?_eq_none h
  exact ⟨congrArg (Option.map _) hnone, congrArg (Option.map _) (truncatedRemainder?_eq hnone)⟩

end Operation

namespace Filter

/-- The outcome is an integer, or nil where that needs more than 64 bits. -/
structure IsExactly (outcome : Except Error Value) (n : Int) : Prop where
  /-- Within 64 bits it is the integer. -/
  fits : -2 ^ 63 ≤ n ∧ n < 2 ^ 63 → ∃ i : Int64, outcome = .ok (.integer i) ∧ i.toInt = n
  /-- Beyond it is nil. -/
  nil : ¬(-2 ^ 63 ≤ n ∧ n < 2 ^ 63) → outcome = .ok .nil

theorem operation_isExactly {op : Operation} {a b : Int64} {n : Int}
    (hop : op.onIntegers a b = int64? n) (rest : List Value) :
    IsExactly (operation op (.integer a) (.integer b :: rest)) n := by
  have hresult : operation op (.integer a) (.integer b :: rest) =
      .ok (((int64? n).map Value.integer).getD .nil) := by
    rw [← hop]
    rfl
  rw [hresult]
  constructor
  · intro hfits
    obtain ⟨i, hi, hin⟩ := int64?_eq_some hfits
    rw [hi]
    exact ⟨i, rfl, hin⟩
  · intro hbeyond
    rw [int64?_eq_none hbeyond]
    rfl

theorem division_integer (op : Operation) (a b : Int64) (rest : List Value) :
    division op (.integer a) (.integer b :: rest) =
      .ok (if b = 0 then .nil else ((op.onIntegers a b).map Value.integer).getD .nil) := by
  show (if (ofInt64 b == 0) = true then _ else _) = _
  rw [ofInt64_beq_zero]
  by_cases hb : b = 0
  · rw [if_pos hb, if_pos (decide_eq_true hb)]
  · rw [if_neg hb, if_neg (by simpa using hb)]
    rfl

/-- A sum, difference or product of two integers, called by its name. -/
theorem apply_operation_isExactly {name : String} {op : Operation}
    (hmem : (name, operation op) ∈ arithmetic) {a b : Int64} {n : Int}
    (hop : op.onIntegers a b = int64? n) (rest : List Value) :
    IsExactly (FilterRegistry.standard.apply name (.integer a) (.integer b :: rest)) n := by
  rw [FilterRegistry.apply_arithmetic hmem]
  exact operation_isExactly hop rest

/-- A quotient or remainder of two integers, called by its name. -/
theorem apply_division_integer {name : String} {op : Operation}
    (hmem : (name, division op) ∈ arithmetic) (a b : Int64) (rest : List Value) :
    FilterRegistry.standard.apply name (.integer a) (.integer b :: rest) =
      .ok (if b = 0 then .nil else ((op.onIntegers a b).map Value.integer).getD .nil) := by
  rw [FilterRegistry.apply_arithmetic hmem]
  exact division_integer op a b rest

/-- The five filters on integers. Sum, difference and product are exact, or nil where they need more
than 64 bits. The quotient is the exact one rounded down, and the remainder is what it leaves;
there are none of a division by zero, nor of the one division whose quotient needs more than 64
bits. On the way to them the machine never divides by zero or beyond its range, and neither
correction leaves it. -/
theorem integers_exact_or_nil (a b : Int64) (rest : List Value) :
    IsExactly (FilterRegistry.standard.apply "plus" (.integer a) (.integer b :: rest))
      (a.toInt + b.toInt) ∧
    IsExactly (FilterRegistry.standard.apply "minus" (.integer a) (.integer b :: rest))
      (a.toInt - b.toInt) ∧
    IsExactly (FilterRegistry.standard.apply "times" (.integer a) (.integer b :: rest))
      (a.toInt * b.toInt) ∧
    (b = 0 ∨ a = Int64.minValue ∧ b = -1 →
      FilterRegistry.standard.apply "divided_by" (.integer a) (.integer b :: rest) = .ok .nil ∧
      FilterRegistry.standard.apply "modulo" (.integer a) (.integer b :: rest) = .ok .nil) ∧
    (b ≠ 0 → ¬(a = Int64.minValue ∧ b = -1) → ∃ q m : Int64,
      FilterRegistry.standard.apply "divided_by" (.integer a) (.integer b :: rest) =
        .ok (.integer q) ∧
      FilterRegistry.standard.apply "modulo" (.integer a) (.integer b :: rest) =
        .ok (.integer m) ∧
      q.toInt = ⌊(a.toInt : ℚ) / b.toInt⌋ ∧ q.toInt * b.toInt + m.toInt = a.toInt ∧
      |m.toInt| < |b.toInt| ∧ (m.toInt = 0 ∨ m.toInt.sign = b.toInt.sign)) ∧
    (∀ q, Operation.truncatedQuotient? a b = some q →
      b ≠ 0 ∧ ¬(a = Int64.minValue ∧ b = -1) ∧
      ((a % b != 0 && Operation.differInSign a b) = true → (q - 1).toInt = q.toInt - 1)) ∧
    (∀ r, Operation.truncatedRemainder? a b = some r →
      (r != 0 && Operation.differInSign r b) = true → (r + b).toInt = r.toInt + b.toInt) := by
  have hquotient := apply_division_integer
    (show ("divided_by", division .quotient) ∈ arithmetic by simp [arithmetic]) a b rest
  have hremainder := apply_division_integer
    (show ("modulo", division .remainder) ∈ arithmetic by simp [arithmetic]) a b rest
  refine ⟨apply_operation_isExactly
      (show ("plus", operation .sum) ∈ arithmetic by simp [arithmetic]) rfl rest,
    apply_operation_isExactly
      (show ("minus", operation .difference) ∈ arithmetic by simp [arithmetic]) rfl rest,
    apply_operation_isExactly
      (show ("times", operation .product) ∈ arithmetic by simp [arithmetic]) rfl rest,
    fun hundefined => ?_, fun hb hmin => ?_, fun q hq => ?_, fun r _ hcorrected => ?_⟩
  · obtain ⟨hq, hm⟩ := Operation.onIntegers_eq_none hundefined
    rw [hquotient, hremainder, hq, hm, Option.map_none, Option.getD_none, ite_self]
    exact ⟨rfl, rfl⟩
  · obtain ⟨q, m, hq, hm, hfloor⟩ := Operation.exists_floorDivision hb hmin
    rw [hquotient, hremainder, hq, hm, if_neg hb, if_neg hb]
    exact ⟨q, m, rfl, rfl, hfloor.eq_floor, hfloor.eq, hfloor.abs_lt, hfloor.sign⟩
  · obtain ⟨⟨hb, hmin⟩, -⟩ := Operation.truncated_spec hq
    refine ⟨hb, hmin, fun hcorrected => ?_⟩
    exact Operation.toInt_sub_one hq (Operation.ne_zero_iff.1 (Bool.and_eq_true_iff.1 hcorrected).1)
  · exact Operation.toInt_add_of_differInSign (Bool.and_eq_true_iff.1 hcorrected).2

end Filter

end Liquid
