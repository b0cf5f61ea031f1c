import Liquid.Expression.Parser

/-!
# Names

The names in paths are made of letters, digits, `_`, `-` and `?`.

- `Expression.toNat_of_isNameChar`: these are printed characters of ASCII.
- `Expression.not_isBlank_of_isNameChar`: none of them is blank.
-/

namespace Liquid.Expression

open Text

/-- The characters of names are printed ones of ASCII. -/
theorem toNat_of_isNameChar {c : Char} (h : isNameChar c = true) :
    0x20 < c.toNat ∧ c.toNat < 0x7F := by
  have hle : ∀ a b : Char, a ≤ b ↔ a.toNat ≤ b.toNat := fun a b => UInt32.le_iff_toNat_le
  have hbounds : ∀ low high : Char, 0x20 < low.toNat → high.toNat < 0x7F →
      low.toNat ≤ c.toNat ∧ c.toNat ≤ high.toNat → 0x20 < c.toNat ∧ c.toNat < 0x7F := by
    intro low high hlow hhigh h
    omega
  simp only [isNameChar, isAsciiAlphanumeric, isAsciiLetter, isAsciiDigit, Bool.or_eq_true,
    Bool.and_eq_true, decide_eq_true_eq, beq_iff_eq, hle] at h
  rcases h with ((((hsmall | hcapital) | hdigit) | rfl) | rfl) | rfl
  · exact hbounds 'a' 'z' (by decide) (by decide) hsmall
  · exact hbounds 'A' 'Z' (by decide) (by decide) hcapital
  · exact hbounds '0' '9' (by decide) (by decide) hdigit
  · decide
  · decide
  · decide

theorem not_isBlank_of_isNameChar {c : Char} (h : isNameChar c = true) : isBlank c = false := by
  obtain ⟨hlow, hhigh⟩ := toNat_of_isNameChar h
  simp only [isBlank, Bool.or_eq_false_iff, Bool.and_eq_false_iff, decide_eq_false_iff_not,
    beq_eq_false_iff_ne]
  omega

end Liquid.Expression
