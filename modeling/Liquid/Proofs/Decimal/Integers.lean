import Mathlib
import Liquid.Proofs.Decimal.Order
import Liquid.Proofs.Decimal.Rounding

/-!
# The doubles of integers

- `Decimal.Whole`: a double is a whole number, with a significand of 53 bits.
- `Decimal.Whole.unpack_pack`: such a double is read back from its bits.
- `Decimal.nearestInt`, `Decimal.whole_ofInt64`: the double of an integer is the integer rounded.
- `Decimal.floatOrder?_ofInt64`: the doubles of two integers are compared as the integers rounded.
- `Decimal.ofInt64_beq_zero`: the double of an integer is zero only for zero.
-/

namespace Liquid.Decimal

open Float.Model (UnpackedFloat Format)
open Float.Model.UnpackedFloat (ExtendedMantissa Sign)

/-! ### Bits -/

/-- The significand of 53 bits is stored without its leading bit. -/
theorem toNat_leadingBit_append {m : Nat} (hlow : 2 ^ 52 ≤ m) (hhigh : m < 2 ^ 53) :
    (1#1 ++ BitVec.ofNat 52 m).toNat = m := by
  rw [BitVec.toNat_append, BitVec.toNat_ofNat, BitVec.toNat_ofNat, Nat.shiftLeft_eq]
  show 2 ^ 52 ||| m % 2 ^ 52 = m
  rw [Nat.or_comm, Nat.or_two_pow_eq_add_of_lt (Nat.mod_lt m (Nat.two_pow_pos 52))]
  omega

/-- A double with a significand of 53 bits is read back from its bits. -/
theorem unpack_pack {s : Sign} {m : Nat} {e : Int} {hm : 0 < m} (hlow : 2 ^ 52 ≤ m)
    (hhigh : m < 2 ^ 53) (he : -1074 ≤ e) (he' : e ≤ 971) :
    (Float.Model.pack (.finite s m e hm)).unpack = .finite s m e hm := by
  have hlog : m.log2 = 52 := (Nat.log2_eq_iff (by omega)).2 ⟨hlow, hhigh⟩
  obtain ⟨field, hfield⟩ : ∃ field : Nat, (field : Int) = e + 1075 := ⟨(e + 1075).toNat, by omega⟩
  have hpack : UnpackedFloat.pack .binary64 (.finite s m e hm) =
      UnpackedFloat.packComponents .binary64 s (BitVec.ofNat 11 field) (BitVec.ofNat 52 m) := by
    have hbiased : (e + (1023 : Nat) + (52 : Nat)).toNat = field := by omega
    show (if 2 ^ 11 ≤ (e + (1023 : Nat) + (52 : Nat)).toNat + 1 then _ else
      if m.log2 + 1 = 53 then _ else _) = _
    rw [hbiased, if_neg (by omega), if_pos (by omega)]
    exact congrArg (fun n => UnpackedFloat.packComponents .binary64 s (BitVec.ofNat 11 n)
      (BitVec.ofNat 52 m)) hbiased
  have htoNat : (BitVec.ofNat 11 field).toNat = field := by
    rw [BitVec.toNat_ofNat]
    omega
  have hne : BitVec.ofNat 11 field ≠ -1#11 := by
    intro h
    have hvalue : field = 2047 := by rw [← htoNat, h]; rfl
    omega
  have hne' : BitVec.ofNat 11 field ≠ 0#11 := by
    intro h
    have hvalue : field = 0 := by rw [← htoNat, h]; rfl
    omega
  show UnpackedFloat.unpack .binary64 (UnpackedFloat.pack .binary64 _) = _
  rw [hpack]
  simp only [UnpackedFloat.unpack, UnpackedFloat.unpackExponent_packComponents,
    UnpackedFloat.unpackMantissa_packComponents, UnpackedFloat.unpackSign_packComponents,
    Sign.ofBitVec_toBitVec]
  rw [if_neg hne, if_neg hne', UnpackedFloat.finite.injEq]
  refine ⟨rfl, toNat_leadingBit_append hlow hhigh, ?_⟩
  show ((BitVec.ofNat 11 field).toNat : Int) - ((1023 : Nat) + (52 : Nat)) = e
  rw [htoNat]
  omega

/-! ### Whole numbers -/

/-- A double that is taken apart is a whole number: zero, or a significand of 53 bits with a power
of two that is counted from `2 ^ 52`. -/
inductive Whole : UnpackedFloat → Int → Prop where
  /-- Zero, with either sign. -/
  | zero (s : Sign) : Whole (.zero s) 0
  /-- A whole number with a sign. -/
  | finite {s : Sign} {m k : Nat} {hm : 0 < m} {z : Int} (low : 2 ^ 52 ≤ m) (high : m < 2 ^ 53)
      (small : k < 1024) (value : z * 2 ^ 52 = s.apply (m * 2 ^ k : Nat)) :
      Whole (.finite s m (k - 52) hm) z

namespace Whole

/-- Whole numbers are read back from their bits. -/
theorem unpack_pack {u : UnpackedFloat} {z : Int} (h : Whole u z) :
    (Float.Model.pack u).unpack = u := by
  cases h with
  | zero s => cases s <;> rfl
  | finite low high small _ => exact Decimal.unpack_pack low high (by omega) (by omega)

theorem neg {u : UnpackedFloat} {z : Int} (h : Whole u z) : Whole u.neg (-z) := by
  cases h with
  | zero s => exact .zero _
  | @finite s m k hm z low high small value =>
    refine .finite low high small ?_
    rw [Int.neg_mul, value]
    cases s with
    | negative => exact Int.neg_neg _
    | positive => rfl

end Whole

/-- Significands of 53 bits are compared behind their powers of two. -/
theorem compare_scaled {m n j k : Nat} (hm : 2 ^ 52 ≤ m) (hm' : m < 2 ^ 53) (hn : 2 ^ 52 ≤ n)
    (hn' : n < 2 ^ 53) :
    compare (m * 2 ^ j) (n * 2 ^ k) = (compare j k).then (compare m n) := by
  have hlt : ∀ {m n j k : Nat}, m < 2 ^ 53 → 2 ^ 52 ≤ n → j < k → m * 2 ^ j < n * 2 ^ k := by
    intro m n j k hm hn hjk
    calc m * 2 ^ j < 2 ^ 53 * 2 ^ j := Nat.mul_lt_mul_of_pos_right hm (Nat.two_pow_pos j)
      _ = 2 ^ 52 * 2 ^ (j + 1) := by rw [← Nat.pow_add, ← Nat.pow_add]; congr 1; omega
      _ ≤ n * 2 ^ k := Nat.mul_le_mul hn (Nat.pow_le_pow_right (by decide) hjk)
  rcases Nat.lt_trichotomy j k with hjk | rfl | hjk
  · rw [Nat.compare_eq_lt.2 hjk, Nat.compare_eq_lt.2 (hlt hm' hn hjk)]
    rfl
  · rw [Nat.compare_eq_eq.2 (Eq.refl j)]
    show _ = compare m n
    rcases Nat.lt_trichotomy m n with hmn | rfl | hmn
    · rw [Nat.compare_eq_lt.2 hmn,
        Nat.compare_eq_lt.2 (Nat.mul_lt_mul_of_pos_right hmn (Nat.two_pow_pos j))]
    · rw [Nat.compare_eq_eq.2 rfl, Nat.compare_eq_eq.2 rfl]
    · rw [Nat.compare_eq_gt.2 hmn,
        Nat.compare_eq_gt.2 (Nat.mul_lt_mul_of_pos_right hmn (Nat.two_pow_pos j))]
  · rw [Nat.compare_eq_gt.2 hjk, Nat.compare_eq_gt.2 (hlt hn' hm hjk)]
    rfl

theorem Whole.compare_eq {u v : UnpackedFloat} {y z : Int} (hu : Whole u y) (hv : Whole v z) :
    u.compare v = some (compare y z) := by
  have hpos : ∀ {m : Nat} (k : Nat), 2 ^ 52 ≤ m → 0 < m * 2 ^ k := fun k low =>
    Nat.mul_pos (by omega) (Nat.two_pow_pos k)
  have hlt : ∀ {a b : Int}, a < b → some Ordering.lt = some (compare a b) := fun h =>
    congrArg some (Int.compare_eq_lt.2 h).symm
  have hgt : ∀ {a b : Int}, b < a → some Ordering.gt = some (compare a b) := fun h =>
    congrArg some (Int.compare_eq_gt.2 h).symm
  have hscale : compare y z = compare (y * 2 ^ 52) (z * 2 ^ 52) :=
    compare_congr (by omega) (by omega)
  rw [hscale]
  cases hu with
  | zero s =>
    cases hv with
    | zero t => rfl
    | @finite t n k _ _ low _ _ value =>
      have hn := hpos k low
      rw [value, Int.zero_mul]
      cases t with
      | negative => exact hgt (by simp only [Sign.apply]; omega)
      | positive => exact hlt (by simp only [Sign.apply]; omega)
  | @finite s m j _ _ low high _ value =>
    have hm := hpos j low
    rw [value]
    cases hv with
    | zero t =>
      rw [Int.zero_mul]
      cases s with
      | negative => exact hlt (by simp only [Sign.apply]; omega)
      | positive => exact hgt (by simp only [Sign.apply]; omega)
    | @finite t n k _ _ low' high' _ value' =>
      have hn := hpos k low'
      have hexponent : compare ((j : Int) - 52) ((k : Int) - 52) = compare j k :=
        (compare_congr (by omega) (by omega)).trans (compare_natCast j k)
      rw [value']
      cases s with
      | negative =>
        cases t with
        | negative =>
          show some ((compare _ _).then (compare m n)).swap = some (compare (-_) (-_))
          rw [compare_neg, compare_natCast, hexponent, ← compare_scaled low high low' high',
            Nat.compare_swap]
        | positive => exact hlt (by simp only [Sign.apply]; omega)
      | positive =>
        cases t with
        | negative => exact hgt (by simp only [Sign.apply]; omega)
        | positive =>
          show some ((compare _ _).then (compare m n)) = some (compare _ _)
          rw [Sign.apply, Sign.apply, compare_natCast, hexponent,
            ← compare_scaled low high low' high']

/-! ### Rounding -/

/-- The exponent at which a number has 53 bits. -/
theorem targetExponent_eq {m : Nat} {e : Int} (h : -1022 ≤ m.log2 + e) :
    Format.binary64.targetExponent (Float.Model.totalExponent m e) = m.log2 + e - 52 := by
  show max ((m.log2 : Int) + 1 + e - (53 : Nat)) (-1074) = m.log2 + e - 52
  omega

/-- A number is shifted until 53 bits are left. -/
theorem shiftToTargetExponent_eq {m : Nat} {e : Int} (h : -1022 ≤ m.log2 + e) :
    UnpackedFloat.shiftToTargetExponent .binary64 m e .exact =
      ((⟨m, false, false⟩ : ExtendedMantissa) >>> excess m, e + excess m) := by
  have hamount : (m.log2 + e - 52 - e).toNat = excess m := by
    unfold excess
    omega
  show UnpackedFloat.shiftToExponent m e .exact _ = _
  rw [targetExponent_eq h, UnpackedFloat.shiftToExponent, hamount]
  rfl

theorem mantissa_shiftRight (n k : Nat) :
    ((⟨n, false, false⟩ : ExtendedMantissa) >>> k).mantissa = n / 2 ^ k := by
  cases k with
  | zero => exact (Nat.div_one n).symm
  | succ k => rw [shiftRight_succ]

/-- A significand that was rounded up to 54 bits ends in a zero. -/
theorem div_excess {r : Nat} (hlow : 2 ^ 52 ≤ r) (hhigh : r ≤ 2 ^ 53) :
    r / 2 ^ excess r * 2 ^ excess r = r ∧ 2 ^ 52 ≤ r / 2 ^ excess r ∧ r / 2 ^ excess r < 2 ^ 53 ∧
      excess r ≤ 1 := by
  by_cases hlt : r < 2 ^ 53
  · rw [excess_eq_zero hlt]
    omega
  · have heq : r = 2 ^ 53 := by omega
    rw [heq]
    decide

/-- A number of at least 53 bits is rounded to a whole number. -/
theorem whole_roundWithAccuracy {s : Sign} {m k : Nat} {z : Int} (hm : 52 ≤ m.log2)
    (hk : excess m + k < 1000) (value : z * 2 ^ 52 = s.apply (nearestWhole m * 2 ^ k : Nat)) :
    Whole (UnpackedFloat.roundWithAccuracy .binary64 s m ((k : Int) - 52) .exact) z := by
  obtain ⟨hlow, hhigh⟩ := le_div_of_log2 hm
  obtain ⟨r, hrounded⟩ : ∃ r, roundDiv .toEven m (2 ^ excess m) = r := ⟨_, rfl⟩
  have hle := div_le_roundDiv m (2 ^ excess m)
  have hge := roundDiv_le m (2 ^ excess m)
  rw [nearestWhole, hrounded] at value
  rw [hrounded] at hle hge
  obtain ⟨hr, hlow', hhigh', hle'⟩ := div_excess (r := r) (by omega) (by omega)
  have hbits : -1022 ≤ (m.log2 : Int) + (k - 52) := by omega
  have hbits' : -1022 ≤ (r.log2 : Int) + (k - 52 + excess m) := by omega
  have hexponent : (k : Int) - 52 + excess m + excess r =
      ((k + excess m + excess r : Nat) : Int) - 52 := by omega
  simp only [UnpackedFloat.roundWithAccuracy, shiftToTargetExponent_eq hbits,
    roundedMantissa_shiftRight, hrounded, shiftToTargetExponent_eq hbits', mantissa_shiftRight,
    hexponent]
  rw [dif_neg (by omega)]
  refine .finite hlow' hhigh' (by omega) ?_
  rw [value, Nat.add_comm _ (excess r), Nat.pow_add, ← Nat.mul_assoc, hr, Nat.pow_add,
    Nat.mul_comm (2 ^ k), Nat.mul_assoc]

theorem apply_mul (s : Sign) (a b : Int) : s.apply a * b = s.apply (a * b) := by
  cases s with
  | negative => exact Int.neg_mul a b
  | positive => rfl

theorem log2_scaled {n : Nat} (hn : n ≠ 0) (d : Nat) : (n * 2 ^ d).log2 = n.log2 + d := by
  have hlow := Nat.mul_le_mul_right (2 ^ d) (Nat.log2_self_le hn)
  have hhigh := Nat.mul_lt_mul_of_pos_right (Nat.lt_log2_self (n := n)) (Nat.two_pow_pos d)
  rw [← Nat.pow_add] at hlow hhigh
  rw [Nat.add_right_comm] at hhigh
  exact (Nat.log2_eq_iff (Nat.mul_ne_zero hn (Nat.ne_of_gt (Nat.two_pow_pos d)))).2 ⟨hlow, hhigh⟩

/-- A number is rounded to a whole number. A shorter one is filled up to 53 bits before. -/
theorem whole_round {s : Sign} {n : Nat} {z : Int} (hn : n ≠ 0) (hlog : n.log2 < 900)
    (value : z = s.apply (nearestWhole n : Nat)) :
    Whole (UnpackedFloat.round .binary64 s n 0) z := by
  obtain ⟨d, hd⟩ : ∃ d, 52 - n.log2 = d := ⟨_, rfl⟩
  have hlog' := log2_scaled hn d
  have hscaled : nearestWhole (n * 2 ^ d) = nearestWhole n * 2 ^ d := by
    by_cases hzero : d = 0
    · rw [hzero, Nat.pow_zero, Nat.mul_one, Nat.mul_one]
    · have hle : n ≤ n * 2 ^ d := Nat.le_mul_of_pos_right n (Nat.two_pow_pos d)
      have hlt : n * 2 ^ d < 2 ^ 53 := (Nat.log2_lt (by omega)).1 (by omega)
      rw [nearestWhole_of_le (by omega), nearestWhole_of_le (by omega)]
  have hshifted : UnpackedFloat.round .binary64 s n 0 =
      UnpackedFloat.roundWithAccuracy .binary64 s (n * 2 ^ d) ((52 - d : Nat) - 52) .exact := by
    have hamount : (0 - (n.log2 + 0 - 52 : Int)).toNat = d := by omega
    have hexponent : (0 : Int) - d = (52 - d : Nat) - 52 := by omega
    simp only [UnpackedFloat.round, targetExponent_eq (show -1022 ≤ (n.log2 : Int) + 0 by omega),
      UnpackedFloat.decreaseExponent, hamount, hexponent, Nat.shiftLeft_eq]
  rw [hshifted]
  refine whole_roundWithAccuracy (by omega) (by unfold excess; omega) ?_
  rw [value, hscaled, Nat.mul_assoc, ← Nat.pow_add, Nat.add_sub_cancel' (by omega)]
  rw [apply_mul, Int.natCast_mul]
  rfl

/-! ### Integers -/

/-- The integer of at most 53 bits, and zeros behind them, that is nearest to an integer; of two the
one whose bits end in zero. -/
def nearestInt (i : Int) : Int :=
  if i < 0 then -(nearestWhole i.natAbs : Int) else nearestWhole i.toNat

theorem whole_ofNat {n : Nat} (h : n < 2 ^ 64) :
    Whole (UnpackedFloat.ofNat .binary64 n) (nearestWhole n) := by
  by_cases hn : n = 0
  · rw [hn, nearestWhole_of_le (by decide)]
    exact .zero .positive
  · have hlog := (Nat.log2_lt hn).2 h
    have hround :
        UnpackedFloat.ofNat .binary64 n = UnpackedFloat.round .binary64 .positive n 0 := by
      simp only [UnpackedFloat.ofNat, UnpackedFloat.ofInt, UnpackedFloat.normalize,
        Int.compare_eq_gt.2 (show 0 < (n : Int) by omega), Int.toNat_natCast]
    rw [hround]
    exact whole_round hn (by omega) rfl

theorem whole_toFloat {n : Nat} (h : n < 2 ^ 64) :
    Whole (UInt64.ofNat n).toFloat.toModel.unpack (nearestWhole n) := by
  have htoNat : (UInt64.ofNat n).toNat = n := UInt64.toNat_ofNat_of_lt' h
  have hwhole : Whole (UnpackedFloat.ofNat .binary64 (UInt64.ofNat n).toNat) (nearestWhole n) := by
    rw [htoNat]
    exact whole_ofNat h
  show Whole (Float.Model.pack (UnpackedFloat.ofNat .binary64 (UInt64.ofNat n).toNat)).unpack _
  rwa [hwhole.unpack_pack]

/-- The double of an integer is the integer rounded. -/
theorem whole_ofInt64 (i : Int64) : Whole (ofInt64 i).toModel.unpack (nearestInt i.toInt) := by
  have hle := Int64.le_toInt i
  have hlt := Int64.toInt_lt i
  have hsign : i < 0 ↔ i.toInt < 0 := Int64.lt_iff_toInt_lt
  unfold ofInt64 nearestInt
  by_cases hneg : i < 0
  · rw [if_pos hneg, if_pos (hsign.1 hneg)]
    have hwhole := whole_toFloat (n := i.toInt.natAbs) (by omega)
    show Whole (Float.Model.pack (UInt64.ofNat i.toInt.natAbs).toFloat.toModel.unpack.neg).unpack _
    rw [hwhole.neg.unpack_pack]
    exact hwhole.neg
  · rw [if_neg hneg, if_neg (mt hsign.2 hneg)]
    exact whole_toFloat (by omega)

/-- The double of an integer is a number. -/
theorem isNaN_ofInt64 (i : Int64) : (ofInt64 i).isNaN = false := by
  have hwhole := whole_ofInt64 i
  show (ofInt64 i).toModel.unpack.isNaN = false
  generalize (ofInt64 i).toModel.unpack = u, nearestInt i.toInt = z at hwhole
  cases hwhole <;> rfl

/-- The doubles of two integers are compared as the integers rounded. -/
theorem floatOrder?_ofInt64 (i j : Int64) :
    Value.floatOrder? (ofInt64 i) (ofInt64 j) =
      some (compare (nearestInt i.toInt) (nearestInt j.toInt)) := by
  rw [floatOrder?_eq, place?, place?, ← compare_eq]
  exact (whole_ofInt64 i).compare_eq (whole_ofInt64 j)

/-! ### Rounded integers -/

/-- Integers of up to 53 bits, and the next on either side, are their own doubles. -/
theorem nearestInt_of_natAbs_le {i : Int} (h : i.natAbs ≤ 2 ^ 53) : nearestInt i = i := by
  unfold nearestInt
  by_cases hneg : i < 0
  · rw [if_pos hneg, nearestWhole_of_le h]
    omega
  · rw [if_neg hneg, nearestWhole_of_le (by omega)]
    omega

/-- Rounding turns no order of integers round. -/
theorem nearestInt_mono {i j : Int} (h : i ≤ j) : nearestInt i ≤ nearestInt j := by
  unfold nearestInt
  by_cases hi : i < 0
  · rw [if_pos hi]
    by_cases hj : j < 0
    · rw [if_pos hj]
      have hmono := nearestWhole_mono (m := j.natAbs) (n := i.natAbs) (by omega)
      omega
    · rw [if_neg hj]
      omega
  · rw [if_neg hi, if_neg (by omega)]
    have hmono := nearestWhole_mono (m := i.toNat) (n := j.toNat) (by omega)
    omega

theorem nearestInt_eq_zero_iff {n : Int} : nearestInt n = 0 ↔ n = 0 := by
  constructor
  · intro h
    by_contra hn
    rcases Int.lt_or_gt_of_ne hn with hneg | hpos
    · have hmono := nearestInt_mono (show n ≤ -1 by omega)
      rw [nearestInt_of_natAbs_le (show (-1 : Int).natAbs ≤ 2 ^ 53 by decide)] at hmono
      omega
    · have hmono := nearestInt_mono (show 1 ≤ n by omega)
      rw [nearestInt_of_natAbs_le (show (1 : Int).natAbs ≤ 2 ^ 53 by decide)] at hmono
      omega
  · rintro rfl
    exact nearestInt_of_natAbs_le (by decide)

/-- The only integer whose double is zero is zero. -/
theorem ofInt64_beq_zero (i : Int64) : (ofInt64 i == 0) = decide (i = 0) := by
  have hzero : (0 : Float) = ofInt64 0 := by rfl
  rw [hzero, beq_eq_floatOrder?, floatOrder?_ofInt64, Int64.toInt_zero,
    nearestInt_eq_zero_iff.2 rfl, Bool.eq_iff_iff, beq_iff_eq, decide_eq_true_iff,
    Option.some.injEq, Int.compare_eq_eq, nearestInt_eq_zero_iff, ← Int64.toInt_zero, Int64.toInt_inj]

/-! ### Integers of 64 bits -/

theorem int64_neg_iff {i : Int64} : i < 0 ↔ i.toInt < 0 := by
  rw [Int64.lt_iff_toInt_lt, Int64.toInt_zero]

theorem int64?_eq_some {n : Int} (h : -2 ^ 63 ≤ n ∧ n < 2 ^ 63) :
    ∃ i : Int64, int64? n = some i ∧ i.toInt = n := by
  refine ⟨Int64.ofInt n, ?_, Int64.toInt_ofInt_of_le h.1 h.2⟩
  rw [int64?, Int64.toInt_minValue, Int64.toInt_maxValue, if_pos (by omega)]

theorem int64?_eq_none {n : Int} (h : ¬(-2 ^ 63 ≤ n ∧ n < 2 ^ 63)) :
    int64? n = none := by
  rw [int64?, Int64.toInt_minValue, Int64.toInt_maxValue, if_neg (by omega)]

end Liquid.Decimal
