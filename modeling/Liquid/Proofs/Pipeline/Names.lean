import Liquid.Pipeline
import Liquid.Proofs.Expression.Names
import Liquid.Proofs.Text.Quoted

/-!
# Names of filters

Filters are named by letters and digits of any script, and `_`. None of these is a character that
markup is cut at.

- `Text.not_isBlank_of_isAlphanumeric`: no letter and no numeral is blank.
- `FilterCall.isMark_of_isNameChar`, `FilterCall.not_isBlank_of_isNameChar`: names hold no quotes,
  no brackets and no blanks.
-/

namespace Liquid

namespace Text

open CharClass

/-- The code points of the blank characters beyond ASCII. -/
def wideBlanks : List Nat :=
  [0x85, 0xA0, 0x1680, 0x2000, 0x2001, 0x2002, 0x2003, 0x2004, 0x2005, 0x2006, 0x2007, 0x2008,
    0x2009, 0x200A, 0x2028, 0x2029, 0x202F, 0x205F, 0x3000]

theorem mem_wideBlanks {c : Char} (hblank : isBlank c = true) (hwide : ¬ c.toNat < 0x80) :
    c.toNat ∈ wideBlanks := by
  simp only [isBlank, Bool.or_eq_true, Bool.and_eq_true, decide_eq_true_eq, beq_iff_eq] at hblank
  simp only [wideBlanks, List.mem_cons, List.not_mem_nil, or_false]
  omega

/-- No blank beyond ASCII is in one of the ranges of letters and numerals. -/
theorem holds_wideBlanks :
    ∀ n ∈ wideBlanks,
      (alphabetic.holds n || decimalDigits.holds n || otherNumerals.holds n) = false := by
  decide +kernel

theorem not_isBlank_of_isAlphanumeric {c : Char} (h : isAlphanumeric c = true) :
    isBlank c = false := by
  rw [isAlphanumeric] at h
  by_cases hascii : c.toNat < 0x80
  · rw [if_pos hascii] at h
    refine Expression.not_isBlank_of_isNameChar ?_
    rw [Expression.isNameChar, h]
    rfl
  · rw [if_neg hascii] at h
    refine Bool.eq_false_iff.2 fun hblank => ?_
    rw [holds_wideBlanks _ (mem_wideBlanks hblank hascii)] at h
    cases h

end Text

namespace FilterCall

open Text

/-- A character of a filter name. -/
def isNameChar (c : Char) : Bool := isAlphanumeric c || c == '_'

theorem isName_iff {name : List Char} :
    isName name = true ↔ name ≠ [] ∧ ∀ c ∈ name, isNameChar c = true := by
  rw [isName, Bool.and_eq_true, Bool.not_eq_true', List.isEmpty_eq_false_iff, List.all_eq_true]
  rfl

theorem isMark_of_isNameChar {c : Char} (h : isNameChar c = true) : isMark c = false :=
  isMark_of_class h rfl

theorem isQuote_of_isNameChar {c : Char} (h : isNameChar c = true) : isQuote c = false :=
  (isMark_eq_false_iff.1 (isMark_of_isNameChar h)).1

theorem not_isBlank_of_isNameChar {c : Char} (h : isNameChar c = true) : isBlank c = false := by
  rw [isNameChar, Bool.or_eq_true, beq_iff_eq] at h
  rcases h with h | rfl
  · exact not_isBlank_of_isAlphanumeric h
  · rfl

end FilterCall

end Liquid
