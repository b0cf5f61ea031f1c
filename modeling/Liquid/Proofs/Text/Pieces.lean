import Mathlib.Data.List.DropRight
import Liquid.Filter.Text
import Liquid.Proofs.Text.Replace

/-!
# Pieces of a text

`pieces` splits a text and drops the empty pieces at its end. What is lost by that are occurrences
of the pattern at the end of the text, and nothing else.

- `intercalate_splitOn`, `not_infix_of_mem_splitOn`: the pieces of a split give the text back with
  the pattern between them, and it occurs in none of them.
- `exists_intercalate_append_copies`: what is lost where empty parts at the end are dropped.
- `exists_copies_behind_pieces`, `ne_nil_of_mem_getLast?_pieces`, `not_infix_of_mem_pieces`: the
  pieces of a text.
- `pieces_intercalate`: parts without a character, put together with that character between them.
-/

namespace Liquid.Text

variable {pat : List Char}

/-! ### Splitting -/

/-- The pieces with the pattern between them are the text. -/
theorem intercalate_splitOn (hp : pat ≠ []) (s : List Char) :
    pat.intercalate (splitOn pat s) = s := by
  cases hcut : cutAt? pat s with
  | none => rw [splitOn_of_cutAt?_none hp hcut, List.intercalate_singleton]
  | some cut =>
    have hshorter : cut.2.length < s.length := length_of_cutAt? hp hcut
    rw [splitOn_of_cutAt? hp hcut, List.intercalate_cons_of_ne_nil (splitOn_ne_nil hp cut.2),
      intercalate_splitOn hp cut.2]
    exact (cutAt?_eq_some hcut).symm
termination_by s.length

/-- No piece holds the pattern. -/
theorem not_infix_of_mem_splitOn (hp : pat ≠ []) {s piece : List Char}
    (h : piece ∈ splitOn pat s) : ¬ pat <:+: piece := by
  cases hcut : cutAt? pat s with
  | none =>
    rw [splitOn_of_cutAt?_none hp hcut, List.mem_singleton] at h
    rw [h]
    exact cutAt?_eq_none_iff.1 hcut
  | some cut =>
    have hshorter : cut.2.length < s.length := length_of_cutAt? hp hcut
    rw [splitOn_of_cutAt? hp hcut] at h
    rcases List.mem_cons.1 h with rfl | h
    · obtain ⟨-, hfirst⟩ := (cutAt?_eq_some_iff hp).1 hcut
      exact fun hoccurs => hfirst (hoccurs.trans (List.prefix_append _ _).isInfix)
    · exact not_infix_of_mem_splitOn hp h
termination_by s.length

/-! ### Without the empty parts at the end -/

/-- An empty part at the end stands for one more separator. -/
theorem intercalate_concat_nil (sep : List Char) {parts : List (List Char)} (h : parts ≠ []) :
    sep.intercalate (parts ++ [[]]) = sep.intercalate parts ++ sep := by
  induction parts with
  | nil => exact absurd rfl h
  | cons part parts ih =>
    cases parts with
    | nil =>
      show sep.intercalate [part, []] = _
      rw [List.intercalate_cons_cons, List.intercalate_singleton, List.intercalate_singleton,
        List.append_nil]
    | cons next others =>
      rw [List.cons_append, List.cons_append, List.intercalate_cons_cons, ← List.cons_append,
        ih (List.cons_ne_nil next others), List.intercalate_cons_cons, List.append_assoc _ _ sep]

/-- Where empty parts at the end are dropped, separators are lost. -/
theorem exists_intercalate_append_copies (sep : List Char) (parts : List (List Char)) :
    ∃ n : Nat, sep.intercalate (parts.rdropWhile List.isEmpty) ++ (List.replicate n sep).flatten =
      sep.intercalate parts := by
  induction parts using List.reverseRecOn with
  | nil => exact ⟨0, rfl⟩
  | append_singleton parts last ih =>
    by_cases hlast : last = []
    · subst hlast
      rw [List.rdropWhile_concat_pos _ _ _ rfl]
      by_cases hparts : parts = []
      · subst hparts
        exact ⟨0, rfl⟩
      · obtain ⟨n, hn⟩ := ih
        refine ⟨n + 1, ?_⟩
        rw [intercalate_concat_nil sep hparts, ← hn, List.append_assoc, List.replicate_succ',
          List.flatten_append, List.flatten_singleton]
    · refine ⟨0, ?_⟩
      rw [List.rdropWhile_concat_neg _ _ _ (by rwa [List.isEmpty_iff])]
      exact List.append_nil _

/-! ### Pieces -/

theorem intercalate_nil_singletons (s : List Char) : [].intercalate (s.map ([·])) = s := by
  induction s with
  | nil => rfl
  | cons c s ih =>
    cases s with
    | nil => rfl
    | cons d s =>
      have hne : (d :: s).map ([·]) ≠ [] := List.cons_ne_nil _ _
      rw [List.map_cons, List.intercalate_cons_of_ne_nil hne, ih]
      rfl

theorem pieces_eq (hspace : pat ≠ [' ']) (hp : pat ≠ []) (s : List Char) :
    pieces pat s = (splitOn pat s).rdropWhile List.isEmpty := by
  rw [pieces, if_neg (by rwa [List.isEmpty_iff]), if_neg hspace]
  rfl

theorem pieces_nil (s : List Char) : pieces [] s = (s.map ([·])).rdropWhile List.isEmpty := rfl

/-- The pieces with the pattern between them are the text, less some occurrences of the pattern at
its end. -/
theorem exists_copies_behind_pieces (hspace : pat ≠ [' ']) (s : List Char) :
    ∃ n : Nat, pat.intercalate (pieces pat s) ++ (List.replicate n pat).flatten = s := by
  by_cases hp : pat = []
  · subst hp
    obtain ⟨n, hn⟩ := exists_intercalate_append_copies [] (s.map ([·]))
    rw [← pieces_nil, intercalate_nil_singletons] at hn
    exact ⟨n, hn⟩
  · obtain ⟨n, hn⟩ := exists_intercalate_append_copies pat (splitOn pat s)
    rw [← pieces_eq hspace hp, intercalate_splitOn hp] at hn
    exact ⟨n, hn⟩

/-- The last piece is not empty. -/
theorem ne_nil_of_mem_getLast?_pieces {s last : List Char} (h : last ∈ (pieces pat s).getLast?) :
    last ≠ [] := by
  have hdropped : ∀ parts : List (List Char), last ∈ (parts.rdropWhile List.isEmpty).getLast? →
      last ≠ [] := by
    intro parts h
    obtain ⟨hne, rfl⟩ := List.mem_getLast?_eq_getLast h
    have := List.rdropWhile_last_not List.isEmpty parts hne
    rwa [List.isEmpty_iff] at this
  exact hdropped _ h

theorem not_infix_of_mem_pieces (hspace : pat ≠ [' ']) (hp : pat ≠ []) {s piece : List Char}
    (h : piece ∈ pieces pat s) : ¬ pat <:+: piece := by
  rw [pieces_eq hspace hp] at h
  exact not_infix_of_mem_splitOn hp ((List.rdropWhile_prefix _ _).subset h)

/-- Parts in which a character does not occur, and of which the last one is not empty, are the
pieces between its occurrences when they are put together with it. -/
theorem pieces_intercalate {c : Char} (hc : c ≠ ' ') {parts : List (List Char)}
    (hparts : ∀ part ∈ parts, c ∉ part) (hlast : ∀ last ∈ parts.getLast?, last ≠ []) :
    pieces [c] ([c].intercalate parts) = parts := by
  have hspace : [c] ≠ [' '] := fun h => hc (List.cons.inj h).1
  rw [pieces_eq hspace (List.cons_ne_nil c []), splitOn_singleton]
  by_cases hne : parts = []
  · subst hne
    rfl
  · rw [List.splitOn_intercalate c hparts hne]
    refine List.rdropWhile_eq_self_iff.2 fun hne => ?_
    rw [List.isEmpty_iff]
    exact hlast _ (List.getLast?_eq_some_getLast hne)

end Liquid.Text
