import Mathlib.Algebra.Group.Nat.Defs
import Liquid.Decimal.Binary64

/-!
# Rounding whole numbers to doubles

A whole number of more than 53 bits has a double only if it ends in enough zeros; any other one is
rounded to the nearest that does.

- `Decimal.roundDiv_toEven`, `Decimal.roundDiv_mono`: rounding a quotient, by what remains.
- `Decimal.nearestWhole`: a whole number cut down to 53 bits. By `nearestWhole_of_le` it stays as it
  is up to `2 ^ 53`, and by `nearestWhole_mono` no order is turned round.
- `Decimal.roundedMantissa_shiftRight`: shifting out bits one by one, with a round bit and a sticky
  bit, rounds the quotient by a power of two.
-/

namespace Liquid.Decimal

open Float.Model.UnpackedFloat (ExtendedMantissa)

/-! ### Rounding a quotient -/

/-- A quotient is rounded to even by what remains. -/
theorem roundDiv_toEven (num den : Nat) :
    roundDiv .toEven num den =
      if 2 * (num % den) < den ∨ 2 * (num % den) = den ∧ num / den % 2 = 0 then num / den
      else num / den + 1 := by
  unfold roundDiv
  extract_lets q twice
  by_cases hlt : twice < den
  · rw [if_pos hlt, if_pos (.inl hlt)]
  · rw [if_neg hlt]
    by_cases hgt : den < twice
    · rw [if_pos hgt, if_neg (by omega)]
    · rw [if_neg hgt]
      show (if q % 2 = 0 then q else q + 1) = _
      by_cases heven : q % 2 = 0
      · rw [if_pos heven, if_pos (.inr ⟨by omega, heven⟩)]
      · rw [if_neg heven, if_neg (by omega)]

theorem div_le_roundDiv (num den : Nat) : num / den ≤ roundDiv .toEven num den := by
  rw [roundDiv_toEven]
  split <;> omega

theorem roundDiv_le (num den : Nat) : roundDiv .toEven num den ≤ num / den + 1 := by
  rw [roundDiv_toEven]
  split <;> omega

theorem roundDiv_of_mod_eq_zero {num den : Nat} (hden : 0 < den) (h : num % den = 0) :
    roundDiv .toEven num den = num / den := by
  rw [roundDiv_toEven, if_pos (.inl (by omega))]

/-- A greater number has no smaller rounded quotient. -/
theorem roundDiv_mono {m n : Nat} (den : Nat) (h : m ≤ n) :
    roundDiv .toEven m den ≤ roundDiv .toEven n den := by
  have hdiv : m / den ≤ n / den := Nat.div_le_div_right h
  by_cases hlt : m / den < n / den
  · have hm := roundDiv_le m den
    have hn := div_le_roundDiv n den
    omega
  · -- the quotients are equal, so `m` leaves no greater remainder
    have heq : m / den = n / den := by omega
    have hmod : m % den ≤ n % den := by
      have hm := Nat.div_add_mod m den
      have hn := Nat.div_add_mod n den
      rw [heq] at hm
      omega
    rw [roundDiv_toEven, roundDiv_toEven, heq]
    split <;> split <;> omega

/-! ### Cutting a number down -/

/-- How many bits a number has in excess of 53. -/
def excess (n : Nat) : Nat := n.log2 - 52

/-- The whole number of at most 53 bits, and zeros behind them, that is nearest to a number; of two
the one whose bits end in zero. -/
def nearestWhole (n : Nat) : Nat := roundDiv .toEven n (2 ^ excess n) * 2 ^ excess n

theorem excess_eq_zero {n : Nat} (h : n < 2 ^ 53) : excess n = 0 := by
  unfold excess
  by_cases hn : n = 0
  · rw [hn, Nat.log2_zero]
  · have hlog := (Nat.log2_lt hn).2 h
    omega

/-- The bits of a number that are kept. -/
theorem le_div_of_log2 {n : Nat} (h : 52 ≤ n.log2) :
    2 ^ 52 ≤ n / 2 ^ excess n ∧ n / 2 ^ excess n < 2 ^ 53 := by
  have hn : n ≠ 0 := by
    rintro rfl
    rw [Nat.log2_zero] at h
    omega
  have hlow : 2 ^ 52 * 2 ^ excess n ≤ n := by
    rw [← Nat.pow_add, excess, Nat.add_sub_cancel' h]
    exact Nat.log2_self_le hn
  have hhigh : n < 2 ^ 53 * 2 ^ excess n := by
    rw [← Nat.pow_add, excess, show 53 + (n.log2 - 52) = n.log2 + 1 by omega]
    exact Nat.lt_log2_self
  exact ⟨(Nat.le_div_iff_mul_le (Nat.two_pow_pos _)).2 hlow, Nat.div_lt_of_lt_mul (by omega)⟩

/-- A number of up to 53 bits stays as it is, and so does the next one. -/
theorem nearestWhole_of_le {n : Nat} (h : n ≤ 2 ^ 53) : nearestWhole n = n := by
  by_cases hlt : n < 2 ^ 53
  · rw [nearestWhole, excess_eq_zero hlt, Nat.pow_zero, Nat.mul_one,
      roundDiv_of_mod_eq_zero Nat.one_pos (Nat.mod_one n), Nat.div_one]
  · have heq : n = 2 ^ 53 := by omega
    rw [heq]
    decide

/-- A rounded number lies between the same powers of two. -/
theorem nearestWhole_bounds {n : Nat} (h : 52 ≤ n.log2) :
    2 ^ n.log2 ≤ nearestWhole n ∧ nearestWhole n ≤ 2 ^ (n.log2 + 1) := by
  obtain ⟨hlow, hhigh⟩ := le_div_of_log2 h
  have hle := div_le_roundDiv n (2 ^ excess n)
  have hge := roundDiv_le n (2 ^ excess n)
  have hpow : 2 ^ n.log2 = 2 ^ 52 * 2 ^ excess n := by
    rw [← Nat.pow_add, excess, Nat.add_sub_cancel' h]
  rw [Nat.pow_succ, hpow, nearestWhole]
  constructor
  · exact Nat.mul_le_mul_right _ (by omega)
  · calc roundDiv .toEven n (2 ^ excess n) * 2 ^ excess n
        ≤ 2 ^ 53 * 2 ^ excess n := Nat.mul_le_mul_right _ (by omega)
      _ = 2 ^ 52 * 2 ^ excess n * 2 := by omega

/-- Rounding turns no order round. -/
theorem nearestWhole_mono {m n : Nat} (h : m ≤ n) : nearestWhole m ≤ nearestWhole n := by
  by_cases hm : m ≤ 2 ^ 53
  · rw [nearestWhole_of_le hm]
    by_cases hn : n ≤ 2 ^ 53
    · rwa [nearestWhole_of_le hn]
    · have hlog : 53 ≤ n.log2 := (Nat.le_log2 (by omega)).2 (by omega)
      calc m ≤ 2 ^ 53 := hm
        _ ≤ 2 ^ n.log2 := Nat.pow_le_pow_right (by decide) hlog
        _ ≤ nearestWhole n := (nearestWhole_bounds (by omega)).1
  · have hmlog : 53 ≤ m.log2 := (Nat.le_log2 (by omega)).2 (by omega)
    have hlog : m.log2 ≤ n.log2 := (Nat.le_log2 (by omega)).2 (Nat.le_trans
      (Nat.log2_self_le (by omega)) h)
    by_cases heq : m.log2 = n.log2
    · rw [nearestWhole, nearestWhole, excess, excess, heq]
      exact Nat.mul_le_mul_right _ (roundDiv_mono _ h)
    · calc nearestWhole m ≤ 2 ^ (m.log2 + 1) := (nearestWhole_bounds (by omega)).2
        _ ≤ 2 ^ n.log2 := Nat.pow_le_pow_right (by decide) (by omega)
        _ ≤ nearestWhole n := (nearestWhole_bounds (by omega)).1

/-! ### Shifting out bits -/

/-- What is left of a number when bits are shifted out: the last of them is the round bit, and the
sticky bit tells whether any other one was set. -/
theorem shiftRight_succ (n k : Nat) :
    (⟨n, false, false⟩ : ExtendedMantissa) >>> (k + 1) =
      ⟨n / 2 ^ (k + 1), n / 2 ^ k % 2 != 0, n % 2 ^ k != 0⟩ := by
  induction k with
  | zero =>
    show ExtendedMantissa.shiftRightOne ⟨n, false, false⟩ = _
    rw [Nat.pow_zero, Nat.div_one, Nat.mod_one]
    rfl
  | succ k ih =>
    show ExtendedMantissa.shiftRightOne ((⟨n, false, false⟩ : ExtendedMantissa) >>> (k + 1)) = _
    rw [ih]
    have hsticky : (n / 2 ^ k % 2 != 0 || n % 2 ^ k != 0) = (n % 2 ^ (k + 1) != 0) := by
      have hpos := Nat.two_pow_pos k
      rw [Nat.mod_pow_succ, Bool.eq_iff_iff]
      simp only [Bool.or_eq_true, bne_iff_ne, ne_eq, Nat.add_eq_zero_iff, Nat.mul_eq_zero]
      omega
    simp only [ExtendedMantissa.shiftRightOne, hsticky, Nat.div_div_eq_div_mul, ← Nat.pow_succ]

/-- The bits that are shifted out decide how the rest is rounded. -/
theorem roundedMantissa_shiftRight (n k : Nat) :
    ((⟨n, false, false⟩ : ExtendedMantissa) >>> k).roundedMantissa =
      roundDiv .toEven n (2 ^ k) := by
  cases k with
  | zero =>
    rw [Nat.pow_zero, roundDiv_of_mod_eq_zero Nat.one_pos (Nat.mod_one n), Nat.div_one]
    rfl
  | succ k =>
    rw [shiftRight_succ, roundDiv_toEven, Nat.mod_pow_succ, Nat.pow_succ]
    have hpos := Nat.two_pow_pos k
    have hrest := Nat.mod_lt n hpos
    rcases Nat.mod_two_eq_zero_or_one (n / 2 ^ k) with hround | hround
    · -- less than half is shifted out
      rw [hround, if_pos (.inl (by omega))]
      cases n % 2 ^ k != 0 <;> rfl
    · by_cases hsticky : n % 2 ^ k = 0
      · rw [hround, hsticky]
        show n / (2 ^ k * 2) + n / (2 ^ k * 2) % 2 = _
        split <;> omega
      · rw [hround, if_neg (by omega), bne_iff_ne.2 hsticky]
        rfl

end Liquid.Decimal
