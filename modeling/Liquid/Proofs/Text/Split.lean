import Liquid.Proofs.Text.Search

/-!
# Splitting at one character

For a pattern of one character `splitOn` is `List.splitOn` of the library: a text has as many
pieces as it has separators, and one more.

- `splitOn_of_cutAt?`, `splitOn_of_cutAt?_none`: what a split is, by its first cut.
- `splitOn_singleton`: the two splits agree.
- `subset_of_mem_splitOn`: the pieces hold characters of the text only.
-/

namespace Liquid.Text

/-- A split begins with its first cut. -/
theorem splitOn_of_cutAt? {pat s : List Char} {cut : List Char × List Char} (hp : pat ≠ [])
    (h : cutAt? pat s = some cut) : splitOn pat s = cut.1 :: splitOn pat cut.2 := by
  cases pat with
  | nil => exact absurd rfl hp
  | cons p ps =>
    rw [splitOn]
    split
    · next hnone =>
      rw [h] at hnone
      cases hnone
    · next cut' hcut =>
      rw [h] at hcut
      cases hcut
      rfl

theorem splitOn_of_cutAt?_none {pat s : List Char} (hp : pat ≠ []) (h : cutAt? pat s = none) :
    splitOn pat s = [s] := by
  cases pat with
  | nil => exact absurd rfl hp
  | cons p ps =>
    rw [splitOn]
    split
    · rfl
    · next cut hcut =>
      rw [h] at hcut
      cases hcut

theorem singleton_infix_iff {c : Char} {s : List Char} : [c] <:+: s ↔ c ∈ s := by
  constructor
  · intro h
    exact h.subset List.mem_cons_self
  · intro h
    obtain ⟨a, b, rfl⟩ := List.append_of_mem h
    exact ⟨a, b, by rw [List.append_assoc, List.singleton_append]⟩

/-- For a pattern of one character the pieces are those of the library's split. -/
theorem splitOn_singleton (c : Char) (s : List Char) : splitOn [c] s = s.splitOn c := by
  have hp : [c] ≠ [] := List.cons_ne_nil c []
  cases hcut : cutAt? [c] s with
  | none =>
    have hc : c ∉ s := fun h => cutAt?_eq_none_iff.1 hcut (singleton_infix_iff.2 h)
    rw [splitOn_of_cutAt?_none hp hcut, List.splitOn_eq_singleton hc]
  | some cut =>
    obtain ⟨a, b⟩ := cut
    obtain ⟨hs, hfirst⟩ := (cutAt?_eq_some_iff hp).1 hcut
    have ha : c ∉ a := fun h => hfirst (singleton_infix_iff.2 (List.mem_append_left _ h))
    have hb : b.length < s.length := length_of_cutAt? hp hcut
    rw [splitOn_of_cutAt? hp hcut, hs, List.append_assoc, List.singleton_append,
      List.splitOn_append_cons_self_of_not_mem ha, splitOn_singleton c b]
termination_by s.length

/-- What is put together holds its parts. -/
theorem subset_intercalate {sep part : List Char} {parts : List (List Char)} (h : part ∈ parts) :
    part ⊆ sep.intercalate parts := by
  induction parts with
  | nil => cases h
  | cons first rest ih =>
    cases rest with
    | nil =>
      rw [List.mem_singleton.1 h, List.intercalate_singleton]
      exact List.Subset.refl first
    | cons next others =>
      rw [List.intercalate_cons_cons]
      rcases List.mem_cons.1 h with rfl | h
      · exact fun x hx => List.mem_append_left _ (List.mem_append_left _ hx)
      · exact fun x hx => List.mem_append_right _ (ih h hx)

/-- The pieces of a text hold no other characters than the text. -/
theorem subset_of_mem_splitOn {c : Char} {s piece : List Char} (h : piece ∈ s.splitOn c) :
    piece ⊆ s := by
  have hsubset : piece ⊆ [c].intercalate (s.splitOn c) := subset_intercalate h
  rwa [List.intercalate_splitOn] at hsubset

end Liquid.Text
