import Liquid.Proofs.Decimal.Integers
import Liquid.Proofs.Expression.Forms
import Liquid.Proofs.Text.Search

/-!
# Names that are constants

A name by itself, over the characters that names in paths are made of, is a keyword or an integer,
or else it is read as the path of it alone.

- `Expression.IsInt64`, `Expression.exists_integer?_iff`: the texts that are read as integers.
- `Expression.constant?_name`: a name that is no keyword can be no other constant than an integer.
- `Expression.parse_variable_name`, `Expression.exists_parse_literal_iff`: what a name is read as.
-/

namespace Liquid.Expression

open Text

/-! ### Integers -/

/-- The text is an integer of 64 bits: ASCII digits, with a minus in front or without. -/
def IsInt64 (s : List Char) : Prop :=
  ∃ digits, Decimal.isDigits digits = true ∧
    (s = digits ∧ Decimal.natOfDigits digits < 2 ^ 63 ∨
      s = '-' :: digits ∧ Decimal.natOfDigits digits ≤ 2 ^ 63)

theorem exists_int64?_iff {n : Int} :
    (∃ i, Decimal.int64? n = some i) ↔ -2 ^ 63 ≤ n ∧ n < 2 ^ 63 := by
  constructor
  · rintro ⟨i, hi⟩
    by_contra hfits
    rw [Decimal.int64?_eq_none hfits] at hi
    cases hi
  · intro hfits
    obtain ⟨i, hi, -⟩ := Decimal.int64?_eq_some hfits
    exact ⟨i, hi⟩

theorem splitSign_of_isDigits {s : List Char} (h : Decimal.isDigits s = true) :
    Decimal.splitSign s = (false, s) := by
  unfold Decimal.splitSign
  split
  · exact absurd (Decimal.isAsciiDigit_of_mem h List.mem_cons_self) (by decide)
  · exact absurd (Decimal.isAsciiDigit_of_mem h List.mem_cons_self) (by decide)
  · rfl

theorem integer?_minus {digits : List Char} (h : Decimal.isDigits digits = true) :
    integer? ('-' :: digits) = Decimal.int64? (-(Decimal.natOfDigits digits : Int)) := by
  have hread : Decimal.readInt64? ('-' :: digits) =
      if Decimal.isDigits digits then Decimal.int64? (-(Decimal.natOfDigits digits : Int))
      else none := rfl
  rw [integer?, splitMinus, if_pos h, hread, if_pos h]

theorem integer?_digits {digits : List Char} (h : Decimal.isDigits digits = true) :
    integer? digits = Decimal.int64? (Decimal.natOfDigits digits : Int) := by
  have hminus : (splitMinus digits).2 = digits := by
    cases digits with
    | nil => rfl
    | cons c rest =>
      rw [splitMinus_cons (ne_of_class (Decimal.isAsciiDigit_of_mem h List.mem_cons_self) rfl)]
  rw [integer?, hminus, if_pos h, Decimal.readInt64?, splitSign_of_isDigits h]
  exact if_pos h

/-- Integers are told by their form and their size. -/
theorem exists_integer?_iff {s : List Char} : (∃ i, integer? s = some i) ↔ IsInt64 s := by
  constructor
  · rintro ⟨i, hi⟩
    have hdigits : Decimal.isDigits (splitMinus s).2 = true := by
      by_contra hnot
      rw [integer?, if_neg hnot] at hi
      cases hi
    by_cases hminus : ∃ rest, s = '-' :: rest
    · obtain ⟨rest, rfl⟩ := hminus
      have hdigits : Decimal.isDigits rest = true := hdigits
      rw [integer?_minus hdigits] at hi
      have hfits := exists_int64?_iff.1 ⟨i, hi⟩
      exact ⟨rest, hdigits, .inr ⟨rfl, by omega⟩⟩
    · have hs : (splitMinus s).2 = s := by
        unfold splitMinus
        split
        · exact absurd ⟨_, rfl⟩ hminus
        · rfl
      rw [hs] at hdigits
      rw [integer?_digits hdigits] at hi
      have hfits := exists_int64?_iff.1 ⟨i, hi⟩
      exact ⟨s, hdigits, .inl ⟨rfl, by omega⟩⟩
  · rintro ⟨digits, hdigits, ⟨rfl, hsmall⟩ | ⟨rfl, hsmall⟩⟩
    · rw [integer?_digits hdigits]
      exact exists_int64?_iff.2 (by omega)
    · rw [integer?_minus hdigits]
      exact exists_int64?_iff.2 (by omega)

/-! ### Names -/

theorem exists_constant?_keyword {name : List Char} (h : String.ofList name ∈ keywords) :
    ∃ v, constant? name = some v := by
  simp only [keywords, List.mem_cons, List.not_mem_nil, or_false] at h
  rw [constant?]
  rcases h with hword | hword | hword | hword <;> rw [hword] <;> exact ⟨_, rfl⟩

section Name

variable {name : List Char} (hne : name ≠ []) (hname : ∀ c ∈ name, isNameChar c = true)
include hne hname

/-- A name that is no keyword has neither quotes nor a point, and so it can be no other constant
than an integer. -/
theorem constant?_name (hkeyword : String.ofList name ∉ keywords) :
    constant? name = (integer? name).map .integer := by
  have hquoted : quoted? name = none := by
    obtain ⟨c, rest, rfl⟩ := List.exists_cons_of_ne_nil hne
    exact quoted?_cons_eq_none (isQuote_of_isNameChar (hname c List.mem_cons_self)) rest
  have hpoint : '.' ∉ (splitMinus name).2 := fun h =>
    absurd (hname '.' (splitMinus_subset name h)) (by decide)
  have hfraction : fraction? name = none := by
    have hcut : cutAt? ['.'] (splitMinus name).2 = none :=
      cutAt?_eq_none_iff.2 fun h => hpoint (h.subset List.mem_cons_self)
    rw [fraction?, hcut]
  rw [constant?_eq hne hkeyword, hquoted, hfraction]
  cases integer? name <;> rfl

omit hne in
theorem trim_name : trim name = name :=
  trim_eq_self fun c hc => not_isBlank_of_isNameChar (hname c hc)

/-- A keyword or an integer stands for a value, also where a variable of that name is bound. -/
theorem parse_constant_name (h : String.ofList name ∈ keywords ∨ IsInt64 name) :
    ∃ v, parse name = .ok (.literal v) := by
  have hconstant : ∃ v, constant? name = some v := by
    by_cases hkeyword : String.ofList name ∈ keywords
    · exact exists_constant?_keyword hkeyword
    · obtain ⟨i, hi⟩ := exists_integer?_iff.2 (h.resolve_left hkeyword)
      exact ⟨.integer i, by rw [constant?_name hne hname hkeyword, hi]; rfl⟩
  obtain ⟨v, hv⟩ := hconstant
  rw [← trim_name hname] at hv
  exact ⟨v, parse_of_constant? hv⟩

/-- Any other name is read as the path of it alone. -/
theorem parse_variable_name (hkeyword : String.ofList name ∉ keywords)
    (hinteger : ¬ IsInt64 name) :
    parse name = .ok (.path (String.ofList name) [] (String.ofList name)) := by
  have hnone : integer? name = none :=
    Option.eq_none_iff_forall_ne_some.2 fun i hi => hinteger (exists_integer?_iff.1 ⟨i, hi⟩)
  refine parse_name hne (List.all_eq_true.2 hname) ?_
  rw [constant?_name hne hname hkeyword, hnone]
  rfl

/-- The names that stand for values. -/
theorem exists_parse_literal_iff :
    (∃ v, parse name = .ok (.literal v)) ↔ String.ofList name ∈ keywords ∨ IsInt64 name := by
  refine ⟨fun ⟨v, hv⟩ => ?_, parse_constant_name hne hname⟩
  by_contra hvariable
  rw [not_or] at hvariable
  rw [parse_variable_name hne hname hvariable.1 hvariable.2] at hv
  cases hv

end Name

end Liquid.Expression
