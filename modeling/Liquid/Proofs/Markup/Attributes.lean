import Liquid.Markup.Tag
import Liquid.Proofs.Text.Blank
import Liquid.Text.Quoted

/-!
# Options of a tag

How the scan for `name: value` goes over text that is put together from words and values. Each lemma
is about a scan that goes on with any text behind the part that it takes.

- `Markup.takeValue?_quoted`, `Markup.takeValue?_plain`: the two kinds of values.
- `Markup.attributes_skip`, `Markup.attributes_word`, `Markup.attributes_option`: characters outside
  words, words without a value, and options.
-/

namespace Liquid.Markup

open Text

/-! ### Values -/

section Values

variable {q : Char} {s t : List Char}

theorem takeQuoted?_quoted (hq : isQuote q = true) (hs : q ∉ s) (t : List Char) :
    takeQuoted? (q :: (s ++ [q]) ++ t) = some (q :: (s ++ [q]), t) := by
  have hopen : (q != '"' && q != '\'') = false := by
    simp only [isQuote, Bool.or_eq_true, beq_iff_eq] at hq
    rcases hq with rfl | rfl
    · rfl
    · rfl
  have htext : s ++ [q] ++ t = s ++ q :: t := List.append_assoc s [q] t
  rw [List.cons_append, takeQuoted?, hopen, htext, dropWhile_ne hs, takeWhile_ne hs]
  rfl

theorem takeQuoted?_cons {c : Char} (hc : isQuote c = false) (s : List Char) :
    takeQuoted? (c :: s) = none := by
  have hopen : (c != '"' && c != '\'') = true := by
    simp only [isQuote, Bool.or_eq_false_iff, beq_eq_false_iff_ne] at hc
    simp only [Bool.and_eq_true, bne_iff_ne]
    exact ⟨hc.2, hc.1⟩
  rw [takeQuoted?, hopen]
  rfl

theorem takeValue?_quoted (hq : isQuote q = true) (hs : q ∉ s) (t : List Char) :
    takeValue? (q :: (s ++ [q]) ++ t) = some (q :: (s ++ [q]), t) := by
  rw [takeValue?, takeQuoted?_quoted hq hs]

/-- A value without quotes ends at a blank or a comma. -/
theorem takeValue?_plain {c : Char} (hc : isQuote c = false) (hs : ∀ d ∈ c :: s, isPlain d = true)
    (ht : ∀ d ∈ t.head?, isPlain d = false) :
    takeValue? (c :: s ++ t) = some (c :: s, t) := by
  rw [takeValue?, takeWhile_run hs ht, dropWhile_run hs ht, List.cons_append,
    takeQuoted?_cons hc]
  rfl

end Values

/-! ### Options -/

theorem attributes_nil : attributes [] = [] := by
  rw [attributes]

/-- Nothing begins at a character that is none of a word. -/
theorem attributes_skip {c : Char} (hc : isWord c = false) (s : List Char) :
    attributes (c :: s) = attributes s := by
  rw [attributes, if_neg (Bool.eq_false_iff.1 hc)]

section Options

variable {name s : List Char} (hne : name ≠ []) (hname : ∀ c ∈ name, isWord c = true)
  (hs : ∀ c ∈ s.head?, isWord c = false)
include hne hname hs

/-- A word, and behind it a colon with a value or neither. -/
theorem attributes_append :
    attributes (name ++ s) =
      match takeOption? s with
      | some (value, behind) => (name, value) :: attributes behind
      | none => attributes s := by
  obtain ⟨c, name, rfl⟩ := List.exists_cons_of_ne_nil hne
  obtain ⟨hc, hname⟩ := List.forall_mem_cons.1 hname
  rw [List.cons_append, attributes, if_pos hc]
  rw [takeWhile_run hname hs]
  split
  · next h =>
    rw [dropWhile_run hname hs] at h
    rw [h]
  · next h =>
    rw [dropWhile_run hname hs] at h
    rw [h, dropWhile_run hname hs]

end Options

end Liquid.Markup
