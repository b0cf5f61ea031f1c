import Liquid.Proofs.Filter.Standard
import Liquid.Proofs.Text.Pieces

/-!
# Splitting and joining

`split` and `join` undo each other up to separators at the end of a text, for which `split` makes no
pieces.

- `FilterRegistry.apply_split`, `FilterRegistry.apply_join`: the filters on strings.
- `Filter.exists_copies_behind_join`, `Filter.pieces_join`: each way round, on strings.
- `Filter.split_join`: the same for the filters.
-/

namespace Liquid

open Liquid.Text

namespace FilterRegistry

theorem apply_split (s separator : String) (rest : List Value) :
    standard.apply "split" (.string s) (.string separator :: rest) =
      .ok (.list (((pieces separator.toList s.toList).map String.ofList).map .string)) := by
  have hmem : ("split", Filter.split) ∈ Filter.textual := by simp [Filter.textual]
  rw [apply_textual hmem, List.map_map]
  rfl

theorem apply_join (parts : List String) (separator : String) (rest : List Value) :
    standard.apply "join" (.list (parts.map .string)) (.string separator :: rest) =
      .ok (.string (separator.intercalate parts)) := by
  have hmem : ("join", Filter.join) ∈ Filter.onLists := by simp [Filter.onLists]
  have hchars : (parts.map Value.string).map Value.toChars = parts.map String.toList := by
    rw [List.map_map]
    rfl
  rw [apply_onLists hmem]
  show Except.ok (Value.ofChars (List.intercalate separator.toList
    ((parts.map Value.string).map Value.toChars))) = _
  rw [hchars, ← String.toList_intercalate, Value.ofChars, String.ofList_toList]

end FilterRegistry

namespace Filter

open FilterRegistry

theorem toList_intercalate_ofList (separator : String) (parts : List (List Char)) :
    (separator.intercalate (parts.map String.ofList)).toList =
      separator.toList.intercalate parts := by
  have hinverse : String.toList ∘ String.ofList = id := funext fun _ => String.toList_ofList
  rw [String.toList_intercalate, List.map_map, hinverse, List.map_id]

theorem toList_join_replicate (n : Nat) (s : String) :
    (String.join (List.replicate n s)).toList = (List.replicate n s.toList).flatten := by
  rw [String.toList_join, List.flatMap_def, List.map_replicate]

theorem ne_space_of_ne {separator : String} (h : separator ≠ " ") : separator.toList ≠ [' '] :=
  fun hspace => h (String.toList_inj.1 hspace)

/-- The pieces of a string joined again, and the copies of the separator that are lost. -/
theorem exists_copies_behind_join {separator : String} (h : separator ≠ " ") (s : String) :
    ∃ n : Nat, separator.intercalate ((pieces separator.toList s.toList).map String.ofList) ++
      String.join (List.replicate n separator) = s := by
  obtain ⟨n, hn⟩ := exists_copies_behind_pieces (ne_space_of_ne h) s.toList
  refine ⟨n, ?_⟩
  rw [← String.toList_inj, String.toList_append, toList_intercalate_ofList,
    toList_join_replicate, hn]

theorem join_replicate_empty (n : Nat) : String.join (List.replicate n "") = "" := by
  rw [← String.toList_inj, toList_join_replicate, String.toList_empty, List.flatten_replicate_nil]

/-- Strings without a character, of which the last one is not empty, are the pieces of what they are
joined to with it. -/
theorem pieces_join {c : Char} (hc : c ≠ ' ') {parts : List String}
    (hparts : ∀ part ∈ parts, c ∉ part.toList) (hlast : ∀ last ∈ parts.getLast?, last ≠ "") :
    (pieces [c] ((String.singleton c).intercalate parts).toList).map String.ofList = parts := by
  have hpieces : pieces [c] ([c].intercalate (parts.map String.toList)) =
      parts.map String.toList := by
    refine pieces_intercalate hc ?_ ?_
    · intro part hpart
      obtain ⟨s, hs, rfl⟩ := List.mem_map.1 hpart
      exact hparts s hs
    · intro last hmem
      rw [List.getLast?_map, Option.mem_def, Option.map_eq_some_iff] at hmem
      obtain ⟨s, hs, rfl⟩ := hmem
      exact fun h => hlast s hs (String.toList_inj.1 h)
  have hinverse : String.ofList ∘ String.toList = id := funext fun _ => String.ofList_toList
  rw [String.toList_intercalate, String.toList_singleton, hpieces, List.map_map, hinverse,
    List.map_id]

/-- A text that is split at anything but a space is the text of its pieces, joined again, with
copies of the separator behind it, and none behind characters. The last piece is not empty, and the
separator occurs in no piece. The other way round, strings in which a character does not occur are
joined with it and split again, if the last one is not empty. -/
theorem split_join :
    (∀ (s separator : String) (rest : List Value), separator ≠ " " → ∃ parts : List String,
      FilterRegistry.standard.apply "split" (.string s) (.string separator :: rest) =
        .ok (.list (parts.map .string)) ∧
      (∃ (joined : String) (n : Nat),
        FilterRegistry.standard.apply "join" (.list (parts.map .string))
          (.string separator :: rest) = .ok (.string joined) ∧
        joined ++ String.join (List.replicate n separator) = s ∧ (separator = "" → joined = s)) ∧
      (∀ last ∈ parts.getLast?, last ≠ "") ∧
      (separator ≠ "" → ∀ part ∈ parts, ¬ separator.toList <:+: part.toList)) ∧
    ∀ (c : Char) (parts : List String) (rest : List Value), c ≠ ' ' →
      (∀ part ∈ parts, c ∉ part.toList) → (∀ last ∈ parts.getLast?, last ≠ "") →
      ∃ joined : String,
        FilterRegistry.standard.apply "join" (.list (parts.map .string))
          (.string (String.singleton c) :: rest) = .ok (.string joined) ∧
        FilterRegistry.standard.apply "split" (.string joined)
          (.string (String.singleton c) :: rest) = .ok (.list (parts.map .string)) := by
  constructor
  · intro s separator rest hspace
    refine ⟨_, apply_split s separator rest, ?_, ?_, ?_⟩
    · obtain ⟨n, hjoined⟩ := exists_copies_behind_join hspace s
      refine ⟨_, n, apply_join _ separator rest, hjoined, ?_⟩
      rintro rfl
      rwa [join_replicate_empty, String.append_empty] at hjoined
    · intro last hlast
      rw [List.getLast?_map, Option.mem_def, Option.map_eq_some_iff] at hlast
      obtain ⟨piece, hpiece, rfl⟩ := hlast
      rw [ne_eq, ← String.toList_inj, String.toList_ofList]
      exact ne_nil_of_mem_getLast?_pieces hpiece
    · intro hne part hpart
      obtain ⟨piece, hpiece, rfl⟩ := List.mem_map.1 hpart
      have hne' : separator.toList ≠ [] := fun h => hne (String.toList_inj.1 h)
      rw [String.toList_ofList]
      exact not_infix_of_mem_pieces (ne_space_of_ne hspace) hne' hpiece
  · intro c parts rest hc hparts hlast
    refine ⟨_, apply_join parts (String.singleton c) rest, ?_⟩
    rw [apply_split, String.toList_singleton, pieces_join hc hparts hlast]

/-- A separator that overlaps itself, twice at the end of a text; and a text that begins with its
separator. -/
theorem split_join_overlapping :
    ("aa" ≠ " " ∧
      FilterRegistry.standard.apply "split" (.string "baaaa") [.string "aa"] =
        .ok (.list [.string "b"]) ∧
      ∃ n : Nat, "b" ++ String.join (List.replicate n "aa") = "baaaa") ∧
    (',' ≠ ' ' ∧ (∀ part ∈ ["", "x", "y"], ',' ∉ part.toList) ∧
      (∀ last ∈ ["", "x", "y"].getLast?, last ≠ "") ∧
      FilterRegistry.standard.apply "split" (.string ",x,y") [.string ","] =
        .ok (.list [.string "", .string "x", .string "y"])) := by
  constructor
  · have hpieces : pieces "aa".toList "baaaa".toList = [['b']] := by decide +kernel
    have hspace : "aa" ≠ " " := by decide
    obtain ⟨parts, hsplit, ⟨joined, n, hjoin, hcopies, -⟩, -, -⟩ :=
      split_join.1 "baaaa" "aa" [] hspace
    have hb : FilterRegistry.standard.apply "split" (.string "baaaa") [.string "aa"] =
        .ok (.list (["b"].map .string)) := by
      rw [apply_split, hpieces]
      rfl
    rw [← Except.ok.inj (hb.symm.trans hsplit), apply_join] at hjoin
    cases hjoin
    exact ⟨hspace, hb, n, hcopies⟩
  · have hc : ',' ≠ ' ' := by decide
    have hparts : ∀ part ∈ ["", "x", "y"], ',' ∉ part.toList := by
      simp only [List.forall_mem_cons]
      exact ⟨by decide, by decide, by decide, nofun⟩
    have hlast : ∀ last ∈ ["", "x", "y"].getLast?, last ≠ "" := by
      rintro last ⟨rfl⟩
      decide
    obtain ⟨joined, hjoin, hsplit⟩ := split_join.2 ',' ["", "x", "y"] [] hc hparts hlast
    rw [apply_join] at hjoin
    cases hjoin
    exact ⟨hc, hparts, hlast, hsplit⟩

end Filter

end Liquid
