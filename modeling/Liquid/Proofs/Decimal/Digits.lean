import Liquid.Decimal.Reader

/-!
# Digits

The readers of whole numbers beside the decimal numerals of the library.

- `isDigits_iff`, `natOfDigits_eq`: a run of digits and the number that it stands for.
- `readNat?_eq_some_iff`: the numerals that are read as a number below a bound.
- `exists_digits_numeral`: the form of the numeral of an integer.
- `readInt64?_numeral`: every integer of 64 bits is read back from its decimal numeral.
-/

namespace Liquid.Decimal

open Liquid.Text

theorem natOfDigits_eq (digits : List Char) :
    natOfDigits digits = Nat.ofDigitChars 10 digits 0 := by
  rw [Nat.ofDigitChars_eq_foldl]
  rfl

theorem isDigits_iff {s : List Char} :
    isDigits s = true ↔ s ≠ [] ∧ ∀ c ∈ s, c.isDigit = true := by
  rw [isDigits, Bool.and_eq_true, List.all_eq_true, Bool.not_eq_true', List.isEmpty_eq_false_iff]
  exact Iff.rfl

/-! ### Numbers below a bound -/

/-- The text is a numeral of `n`: digits, with at most a plus sign in front. -/
def IsNumeral (s : List Char) (n : Nat) : Prop :=
  ∃ digits, (s = digits ∨ s = '+' :: digits) ∧ digits ≠ [] ∧ (∀ c ∈ digits, c.isDigit = true) ∧
    Nat.ofDigitChars 10 digits 0 = n

theorem readDigits_iff {bound n : Nat} {digits : List Char} :
    (if isDigits digits && natOfDigits digits < bound then some (natOfDigits digits)
      else none) = some n ↔
      (digits ≠ [] ∧ (∀ c ∈ digits, c.isDigit = true) ∧ Nat.ofDigitChars 10 digits 0 = n) ∧
        n < bound := by
  rw [Option.ite_none_right_eq_some, Bool.and_eq_true, decide_eq_true_eq, isDigits_iff,
    natOfDigits_eq, Option.some.injEq]
  constructor
  · rintro ⟨⟨⟨hne, hall⟩, hlt⟩, rfl⟩
    exact ⟨⟨hne, hall, rfl⟩, hlt⟩
  · rintro ⟨⟨hne, hall, rfl⟩, hlt⟩
    exact ⟨⟨⟨hne, hall⟩, hlt⟩, rfl⟩

/-- The numerals that are read as a number below a bound. -/
theorem readNat?_eq_some_iff {bound n : Nat} {s : List Char} :
    readNat? bound s = some n ↔ IsNumeral s n ∧ n < bound := by
  unfold readNat? IsNumeral
  dsimp only
  split
  · next rest =>
    rw [readDigits_iff]
    constructor
    · rintro ⟨hrest, hlt⟩
      exact ⟨⟨rest, .inr rfl, hrest⟩, hlt⟩
    · rintro ⟨⟨digits, rfl | heq, hdigits⟩, hlt⟩
      · exact absurd (hdigits.2.1 '+' List.mem_cons_self) (by decide)
      · cases heq
        exact ⟨hdigits, hlt⟩
  · next hplus =>
    rw [readDigits_iff]
    constructor
    · rintro ⟨hs, hlt⟩
      exact ⟨⟨s, .inl rfl, hs⟩, hlt⟩
    · rintro ⟨⟨digits, rfl | rfl, hdigits⟩, hlt⟩
      · exact ⟨hdigits, hlt⟩
      · exact absurd rfl (hplus digits)

/-! ### Integers -/

theorem isDigits_toDigits (n : Nat) : isDigits (Nat.toDigits 10 n) = true :=
  isDigits_iff.2 ⟨Nat.toDigits_ne_nil, fun _ hc =>
    Nat.isDigit_of_mem_toDigits (by decide) (by decide) hc⟩

theorem natOfDigits_toDigits (n : Nat) : natOfDigits (Nat.toDigits 10 n) = n := by
  rw [natOfDigits_eq, Nat.ofDigitChars_ten_toDigits]

/-- The decimal numeral of an integer. -/
def numeral (i : Int64) : List Char := i.toInt.repr.toList

theorem numeral_eq (i : Int64) :
    numeral i =
      if 0 ≤ i.toInt then Nat.toDigits 10 i.toInt.toNat
      else '-' :: Nat.toDigits 10 (-i.toInt).toNat := by
  rw [numeral, Int.repr_eq_if]
  split
  · rw [Nat.repr_eq_ofList_toDigits, String.toList_ofList]
  · rw [Nat.repr_eq_ofList_toDigits, String.toList_append, String.toList_ofList,
      String.toList_ofList]
    rfl

/-- A numeral has digits, with a minus in front or without. -/
theorem exists_digits_numeral (i : Int64) :
    ∃ digits, isDigits digits = true
      ∧ (numeral i = digits ∨ numeral i = '-' :: digits) := by
  rw [numeral_eq]
  split
  · exact ⟨_, isDigits_toDigits _, .inl rfl⟩
  · exact ⟨_, isDigits_toDigits _, .inr rfl⟩

theorem isAsciiDigit_of_mem {c : Char} {digits : List Char} (h : isDigits digits = true)
    (hc : c ∈ digits) : isAsciiDigit c = true :=
  (isDigits_iff.1 h).2 c hc

theorem numeral_ne_nil (i : Int64) : numeral i ≠ [] := by
  obtain ⟨digits, hdigits, heq | heq⟩ := exists_digits_numeral i
  · rw [heq]
    exact (isDigits_iff.1 hdigits).1
  · rw [heq]
    exact List.cons_ne_nil _ _

theorem splitSign_toDigits (n : Nat) :
    splitSign (Nat.toDigits 10 n) = (false, Nat.toDigits 10 n) := by
  have hdigit := (isDigits_iff.1 (isDigits_toDigits n)).2
  cases hdigits : Nat.toDigits 10 n with
  | nil => rfl
  | cons c rest =>
    rw [hdigits] at hdigit
    have hc := hdigit c List.mem_cons_self
    unfold splitSign
    split
    · next heq =>
      cases heq
      exact absurd hc (by decide)
    · next heq =>
      cases heq
      exact absurd hc (by decide)
    · rfl

theorem int64?_toInt (i : Int64) : int64? i.toInt = some i := by
  have hbounds : Int64.minValue.toInt ≤ i.toInt ∧ i.toInt ≤ Int64.maxValue.toInt := by
    refine ⟨?_, i.toInt_le⟩
    rw [Int64.toInt_minValue]
    exact i.le_toInt
  rw [int64?, if_pos hbounds, Int64.ofInt_toInt]

/-- Every integer of 64 bits is read back from its decimal numeral. -/
theorem readInt64?_numeral (i : Int64) : readInt64? (numeral i) = some i := by
  rw [numeral_eq]
  by_cases hsign : 0 ≤ i.toInt
  · rw [if_pos hsign]
    simp only [readInt64?, splitSign_toDigits, isDigits_toDigits, natOfDigits_toDigits]
    show int64? (i.toInt.toNat : Int) = some i
    rw [Int.toNat_of_nonneg hsign, int64?_toInt]
  · rw [if_neg hsign]
    simp only [readInt64?, splitSign, isDigits_toDigits, natOfDigits_toDigits]
    show int64? (-((-i.toInt).toNat : Int)) = some i
    rw [Int.toNat_of_nonneg (by omega), Int.neg_neg, int64?_toInt]

end Liquid.Decimal
