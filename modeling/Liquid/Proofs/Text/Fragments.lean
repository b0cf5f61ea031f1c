import Liquid.Proofs.Text.Quoted

/-!
# Fragments

What the cut at blanks outside quotes does with text that is put together from parts.

- `quoteBehind`, `blanksQuoted`: where a scan over quotes ends, and that it comes upon no blank
  outside of them.
- `fragments_of_blanksQuoted`: text without blanks outside quotes is one fragment.
- `Balanced.quoteBehind`: balanced text leaves no quote open.
- `Unbroken`, `Unbroken.quoted`: a fragment as it is written, and that quoted text is one.
- `Unbroken.fragments_append_blank`: a fragment ends at the first blank behind it.
- `fragments_intercalate`: fragments with spaces between them are found again.
-/

namespace Liquid.Text

/-- The quote that stands open behind the text, when `quote` stood open in front of it. -/
def quoteBehind (quote : Option Char) (s : List Char) : Option Char := s.foldl quoteAfter quote

/-- No blank of the text stands outside quotes, when `quote` stands open in front of it. -/
def blanksQuoted (quote : Option Char) : List Char → Bool
  | [] => true
  | c :: rest => (quote.isSome || !isBlank c) && blanksQuoted (quoteAfter quote c) rest

section Scan

variable {quote : Option Char} {s t : List Char}

theorem quoteBehind_append (quote : Option Char) (s t : List Char) :
    quoteBehind quote (s ++ t) = quoteBehind (quoteBehind quote s) t := List.foldl_append

/-- The cut takes text without blanks outside quotes as a whole. -/
theorem fragments_go_append (hs : blanksQuoted quote s = true) (run t : List Char) :
    fragments.go quote run (s ++ t)
      = fragments.go (quoteBehind quote s) (s.reverse ++ run) t := by
  induction s generalizing quote run with
  | nil => rfl
  | cons c s ih =>
    rw [blanksQuoted, Bool.and_eq_true] at hs
    obtain ⟨hc, hs⟩ := hs
    -- no character of the text closes the run
    have hstay : ¬ (quote.isNone && isBlank c) = true := by
      cases quote with
      | none => simpa using hc
      | some q => exact Bool.false_ne_true
    rw [List.cons_append, fragments.go, if_neg hstay, ih hs, List.reverse_cons, List.append_assoc]
    rfl

/-- Text without blanks outside quotes is one fragment, also where a quote is not closed. -/
theorem fragments_of_blanksQuoted (hne : s ≠ []) (h : blanksQuoted none s = true) :
    fragments s = [s] := by
  have hgo := fragments_go_append h [] []
  rw [List.append_nil, List.append_nil] at hgo
  rw [fragments, hgo, fragments.go, fragments.close, if_neg, List.reverse_reverse]
  rwa [List.isEmpty_reverse, List.isEmpty_iff]

/-- Inside quotes no blank counts, and the closing quote leaves none open. -/
theorem quoted_scan {q : Char} {s : List Char} (hs : q ∉ s) :
    blanksQuoted (some q) (s ++ [q]) = true ∧ quoteBehind (some q) (s ++ [q]) = none := by
  induction s with
  | nil => exact ⟨rfl, quoteAfter_close q⟩
  | cons c s ih =>
    obtain ⟨hc, hs⟩ := List.ne_and_not_mem_of_not_mem_cons hs
    rw [List.cons_append, blanksQuoted, quoteBehind, List.foldl_cons, quoteAfter_some hc]
    exact ih hs

theorem quoteBehind_quoted {q : Char} {s : List Char} (hq : isQuote q = true) (hs : q ∉ s) :
    quoteBehind none (q :: (s ++ [q])) = none := by
  rw [quoteBehind, List.foldl_cons, quoteAfter_none hq]
  exact (quoted_scan hs).2

theorem IsPair.quoteBehind {opening closing : Char} (h : IsPair opening closing) :
    quoteBehind none [opening] = none ∧ quoteBehind none [closing] = none := by
  rcases h with ⟨rfl, rfl⟩ | ⟨rfl, rfl⟩
  · exact ⟨rfl, rfl⟩
  · exact ⟨rfl, rfl⟩

end Scan

/-- Balanced text leaves no quote open; inside its brackets, too, the quotes are closed. -/
theorem Balanced.quoteBehind {free : Char → Bool} {s : List Char} (hs : Balanced free s) :
    quoteBehind none s = none := by
  induction hs with
  | nil => rfl
  | char hmark _ _ ih =>
    rw [Text.quoteBehind, List.foldl_cons, quoteAfter, if_neg]
    · exact ih
    · rw [(isMark_eq_false_iff.1 hmark).1]
      exact Bool.false_ne_true
  | quoted hq ha _ ih => rw [quoteBehind_append, quoteBehind_quoted hq ha, ih]
  | @enclosed free opening closing a s hpair _ _ iha ihs =>
    rw [quoteBehind_append, ← List.singleton_append, quoteBehind_append, quoteBehind_append,
      hpair.quoteBehind.1, iha, hpair.quoteBehind.2, ihs]

/-- A fragment as it is written: text that closes its quotes, and has no blank outside of them. -/
structure Unbroken (s : List Char) : Prop where
  /-- There is something. -/
  ne_nil : s ≠ []
  /-- Its blanks are quoted. -/
  blanks : blanksQuoted none s = true
  /-- Its quotes are closed. -/
  closed : quoteBehind none s = none

instance (s : List Char) : Decidable (Unbroken s) :=
  decidable_of_iff (s ≠ [] ∧ blanksQuoted none s = true ∧ quoteBehind none s = none)
    ⟨fun ⟨hne, hblanks, hclosed⟩ => ⟨hne, hblanks, hclosed⟩,
      fun h => ⟨h.ne_nil, h.blanks, h.closed⟩⟩

namespace Unbroken

variable {s : List Char}

/-- Quoted text without its own quote, whatever words and blanks stand in it. -/
theorem quoted {q : Char} (hq : isQuote q = true) (hs : q ∉ s) : Unbroken (q :: (s ++ [q])) where
  ne_nil := List.cons_ne_nil q _
  blanks := by
    rw [blanksQuoted, quoteAfter_none hq, (quoted_scan hs).1, not_isBlank_of_isQuote hq]
    rfl
  closed := quoteBehind_quoted hq hs

/-- The cut comes to the end of a fragment with the fragment as its run. -/
theorem fragments_append (hs : Unbroken s) (t : List Char) :
    fragments (s ++ t) = fragments.go none s.reverse t := by
  rw [fragments, fragments_go_append hs.blanks, hs.closed, List.append_nil]

theorem close_reverse (hs : Unbroken s) : fragments.close s.reverse = [s] := by
  rw [fragments.close, if_neg, List.reverse_reverse]
  rw [List.isEmpty_reverse, List.isEmpty_iff]
  exact hs.ne_nil

theorem fragments_eq (hs : Unbroken s) : fragments s = [s] :=
  fragments_of_blanksQuoted hs.ne_nil hs.blanks

theorem fragments_append_blank (hs : Unbroken s) {c : Char} (hc : isBlank c = true)
    (t : List Char) : fragments (s ++ c :: t) = s :: fragments t := by
  rw [hs.fragments_append, fragments.go, Option.isNone_none, Bool.true_and, if_pos hc,
    hs.close_reverse]
  rfl

end Unbroken

/-- Fragments with single spaces between them are found again. -/
theorem fragments_intercalate {texts : List (List Char)} (h : ∀ t ∈ texts, Unbroken t) :
    fragments ([' '].intercalate texts) = texts := by
  induction texts with
  | nil => rfl
  | cons t rest ih =>
    have ht := h t List.mem_cons_self
    cases rest with
    | nil => rw [List.intercalate_singleton, ht.fragments_eq]
    | cons u others =>
      rw [List.intercalate_cons_cons, List.append_assoc, List.singleton_append,
        ht.fragments_append_blank rfl, ih fun v hv => h v (List.mem_cons_of_mem t hv)]

end Liquid.Text
