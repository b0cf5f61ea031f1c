import Liquid.Text.Search

/-!
# First occurrences

`cutAt?` cuts at the *first* occurrence of a pattern, said here without the search itself: the two
parts make up the text, and no occurrence begins earlier. An earlier one would lie within the first
part and all but the last character of the pattern behind it, which is how it is excluded.

- `cutAt?_eq_none_iff`: there is no cut exactly where the pattern does not occur.
- `cutAt?_eq_some_iff`: which two parts a cut has.
-/

namespace Liquid.Text

theorem after?_eq_none {start s : List Char} : after? start s = none ↔ ¬ start <+: s := by
  constructor
  · rintro h ⟨rest, rfl⟩
    have hs : after? start (start ++ rest) = some rest := after?_eq_some.2 rfl
    rw [h] at hs
    cases hs
  · intro h
    cases hs : after? start s with
    | none => rfl
    | some rest => exact absurd ⟨rest, (after?_eq_some.1 hs).symm⟩ h

/-- There is no cut exactly where the pattern does not occur. -/
theorem cutAt?_eq_none_iff {pat s : List Char} : cutAt? pat s = none ↔ ¬ pat <:+: s := by
  induction s with
  | nil =>
    rw [cutAt?, Option.map_eq_none_iff, after?_eq_none, List.prefix_nil, List.infix_nil]
  | cons c s ih =>
    rw [cutAt?, List.infix_cons_iff, not_or, ← after?_eq_none, ← ih]
    cases hs : after? pat (c :: s) with
    | none => simp
    | some rest => simp

/-- A pattern does not fit into itself without its last character. -/
theorem not_infix_dropLast {pat : List Char} (hp : pat ≠ []) : ¬ pat <:+: pat.dropLast := by
  intro h
  have hl := h.length_le
  have : 0 < pat.length := List.length_pos_iff.2 hp
  rw [List.length_dropLast] at hl
  omega

theorem append_dropLast_prefix_append (pat a b : List Char) :
    a ++ pat.dropLast <+: a ++ pat ++ b := by
  rw [List.append_assoc]
  exact (List.prefix_append_right_inj a).2 ((List.dropLast_prefix pat).trans ⟨b, rfl⟩)

/-- Where a pattern begins a text in front of an occurrence of it, it lies within the text up to
that occurrence and all but its last character. -/
theorem prefix_append_dropLast {pat a b : List Char} (ha : a ≠ []) (h : pat <+: a ++ pat ++ b) :
    pat <+: a ++ pat.dropLast := by
  have hl : 0 < a.length := List.length_pos_iff.2 ha
  exact List.prefix_of_prefix_length_le h (append_dropLast_prefix_append pat a b)
    (by simp only [List.length_append, List.length_dropLast]; omega)

/-- The two parts of a cut: they make up the text, and no occurrence begins earlier. -/
theorem cutAt?_eq_some_iff {pat s a b : List Char} (hp : pat ≠ []) :
    cutAt? pat s = some (a, b) ↔ s = a ++ pat ++ b ∧ ¬ pat <:+: a ++ pat.dropLast := by
  induction s generalizing a with
  | nil =>
    have hs : after? pat [] = none := after?_eq_none.2 fun h => hp (List.prefix_nil.1 h)
    rw [cutAt?, hs]
    simp [hp]
  | cons c s ih =>
    rw [cutAt?]
    cases hs : after? pat (c :: s) with
    | some rest =>
      have hrest : c :: s = pat ++ rest := after?_eq_some.1 hs
      constructor
      · intro h
        cases h
        exact ⟨hrest, not_infix_dropLast hp⟩
      · rintro ⟨heq, hfirst⟩
        -- an occurrence behind a non-empty `a` would not be the first one
        have ha : a = [] := by
          by_cases ha : a = []
          · exact ha
          · have hpre : pat <+: a ++ pat ++ b := heq ▸ ⟨rest, hrest.symm⟩
            exact absurd (prefix_append_dropLast ha hpre).isInfix hfirst
        subst ha
        rw [hrest, List.nil_append, List.append_cancel_left_eq] at heq
        rw [heq]
    | none =>
      have hnone : ¬ pat <+: c :: s := after?_eq_none.1 hs
      constructor
      · intro h
        obtain ⟨⟨a', b'⟩, hcut, heq⟩ := Option.map_eq_some_iff.1 h
        cases heq
        obtain ⟨rfl, hfirst⟩ := ih.1 hcut
        refine ⟨rfl, fun h => ?_⟩
        -- an earlier occurrence would begin at `c`, or behind it
        rcases List.infix_cons_iff.1 h with h | h
        · exact hnone (h.trans (append_dropLast_prefix_append pat (c :: a') b'))
        · exact hfirst h
      · rintro ⟨heq, hfirst⟩
        cases a with
        | nil => exact absurd ⟨b, heq.symm⟩ hnone
        | cons c' a' =>
          obtain ⟨rfl, hs'⟩ := List.cons.inj heq
          refine Option.map_eq_some_iff.2 ⟨(a', b), ih.2 ⟨hs', fun h => ?_⟩, rfl⟩
          exact hfirst (List.infix_cons h)

end Liquid.Text
