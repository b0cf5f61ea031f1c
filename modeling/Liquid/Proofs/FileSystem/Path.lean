import Mathlib.Data.List.TakeWhile
import Liquid.Proofs.Text.Split
import Liquid.Settings

/-!
# Paths of templates

What the path of a template is made of, when the pattern is the one that settings begin with.

- `splitLastSlash?_eq`, `exists_lastSlash`: a name is cut behind its last slash, the `front`, which
  is empty or ends with a slash, and the `base`, which holds none.
- `toList_partialPath`: the path is the front, and then the base between the fixed parts of the
  pattern.
- `FileTree.components_eq`: the parts of a path between its slashes.
- `LocalTemplates.isLegalName_iff`: the names that are taken.
- `FileTree.walk_above`: a path without `..` never leads out of the directory where it starts.
-/

namespace Liquid

open Text

/-! ### The last slash of a name -/

/-- What can stand in front of the last part of a name: nothing, or text that ends with a slash. -/
def IsFront (front : List Char) : Prop := ∀ c ∈ front.getLast?, c = '/'

theorem isFront_nil : IsFront [] := by
  intro c hc
  cases hc

theorem isFront_append_slash (directory : List Char) : IsFront (directory ++ ['/']) := by
  intro c hc
  rw [List.getLast?_append, List.getLast?_singleton, Option.some_or] at hc
  exact (Option.mem_some.1 hc).symm

theorem IsFront.cases {front : List Char} (h : IsFront front) :
    front = [] ∨ ∃ directory, front = directory ++ ['/'] := by
  rcases List.eq_nil_or_concat front with rfl | ⟨directory, c, rfl⟩
  · exact .inl rfl
  · have hc : c = '/' := h c (by simp)
    exact .inr ⟨directory, by rw [hc, List.concat_eq_append]⟩

/-- Every name has a last slash, or none. -/
theorem exists_lastSlash (name : List Char) :
    ∃ front base, name = front ++ base ∧ IsFront front ∧ '/' ∉ base := by
  by_cases h : '/' ∈ name
  · obtain ⟨base, rest, hrev, hbase⟩ := List.eq_append_cons_of_mem (List.mem_reverse.2 h)
    refine ⟨rest.reverse ++ ['/'], base.reverse, ?_, isFront_append_slash _, ?_⟩
    · rw [← List.reverse_reverse name, hrev]
      simp
    · rw [List.mem_reverse]
      exact hbase
  · exact ⟨[], name, rfl, isFront_nil, h⟩

theorem splitLastSlash?_of_not_mem {base : List Char} (hbase : '/' ∉ base) :
    splitLastSlash? base = none := by
  have hall : ∀ c ∈ base.reverse, (c != '/') = true := by
    intro c hc
    rw [bne_iff_ne]
    rintro rfl
    exact hbase (List.mem_reverse.1 hc)
  rw [splitLastSlash?, List.dropWhile_eq_nil_iff.2 hall]

theorem splitLastSlash?_append {directory base : List Char} (hbase : '/' ∉ base) :
    splitLastSlash? (directory ++ '/' :: base) = some (directory, base) := by
  have hall : ∀ c ∈ base.reverse, (c != '/') = true := by
    intro c hc
    rw [bne_iff_ne]
    rintro rfl
    exact hbase (List.mem_reverse.1 hc)
  have hreverse :
      (directory ++ '/' :: base).reverse = base.reverse ++ '/' :: directory.reverse := by
    simp
  rw [splitLastSlash?, hreverse, List.dropWhile_append_of_pos hall,
    List.takeWhile_append_of_pos hall]
  simp

/-! ### The path -/

/-- The name of the file of a template whose name ends in `base`. -/
def fileName (base : List Char) : List Char := '_' :: (base ++ ".liquid".toList)

theorem replaceAll_templatePattern (base : List Char) :
    replaceAll namePlaceholder base ({} : Settings).templatePattern.toList = fileName base := by
  have hplaceholder : namePlaceholder ≠ [] := by decide
  have hcut : cutAt? namePlaceholder ({} : Settings).templatePattern.toList =
      some (['_'], ".liquid".toList) := by decide
  have hrest : cutAt? namePlaceholder ".liquid".toList = none := by decide
  rw [replaceAll, splitOn_of_cutAt? hplaceholder hcut, splitOn_of_cutAt?_none hplaceholder hrest]
  rfl

/-- The path of a template: what stands in front of the last part of its name stays, and the last
part becomes the name of a file. -/
theorem toList_partialPath {front base : List Char} (hfront : IsFront front) (hbase : '/' ∉ base) :
    (partialPath ({} : Settings).templatePattern (String.ofList (front ++ base))).toList =
      front ++ fileName base := by
  rw [partialPath, String.toList_ofList, String.toList_ofList]
  rcases hfront.cases with rfl | ⟨directory, rfl⟩
  · rw [List.nil_append, splitLastSlash?_of_not_mem hbase]
    exact replaceAll_templatePattern base
  · rw [List.append_assoc, List.singleton_append, splitLastSlash?_append hbase]
    show directory ++ '/' :: replaceAll namePlaceholder base _ = _
    rw [replaceAll_templatePattern, List.append_assoc, List.singleton_append]

/-- A text is cut behind its last slash in one way only. -/
theorem lastSlash_unique {front front' last last' : List Char} (hfront : IsFront front)
    (hfront' : IsFront front') (hlast : '/' ∉ last) (hlast' : '/' ∉ last')
    (h : front ++ last = front' ++ last') : front = front' ∧ last = last' := by
  have hsplit := congrArg splitLastSlash? h
  rcases hfront.cases with rfl | ⟨directory, rfl⟩ <;>
    rcases hfront'.cases with rfl | ⟨directory', rfl⟩
  · exact ⟨rfl, h⟩
  · rw [List.nil_append, splitLastSlash?_of_not_mem hlast, List.append_assoc,
      List.singleton_append, splitLastSlash?_append hlast'] at hsplit
    cases hsplit
  · rw [List.nil_append, splitLastSlash?_of_not_mem hlast', List.append_assoc,
      List.singleton_append, splitLastSlash?_append hlast] at hsplit
    cases hsplit
  · rw [List.append_assoc, List.append_assoc, List.singleton_append, List.singleton_append,
      splitLastSlash?_append hlast, splitLastSlash?_append hlast'] at hsplit
    cases hsplit
    exact ⟨rfl, rfl⟩

theorem not_mem_fileName {base : List Char} (hbase : '/' ∉ base) : '/' ∉ fileName base := by
  intro h
  rcases List.mem_cons.1 h with h | h
  · exact absurd h (by decide)
  · rcases List.mem_append.1 h with h | h
    · exact hbase h
    · exact absurd h (by decide)

theorem fileName_injective {base base' : List Char} (h : fileName base = fileName base') :
    base = base' :=
  List.append_cancel_right (List.cons.inj h).2

/-- The parts of a text between its slashes: the last one is what is behind the last slash, and the
others lie in front of it. -/
theorem exists_splitOn_append {front last : List Char} (hfront : IsFront front)
    (hlast : '/' ∉ last) :
    ∃ directories, (front ++ last).splitOn '/' = directories ++ [last] ∧
      ∀ part ∈ directories, part ⊆ front := by
  rcases hfront.cases with rfl | ⟨directory, rfl⟩
  · refine ⟨[], ?_, fun part hpart => absurd hpart List.not_mem_nil⟩
    rw [List.nil_append, List.splitOn_eq_singleton hlast, List.nil_append]
  · refine ⟨directory.splitOn '/', ?_, fun part hpart => ?_⟩
    · rw [List.append_assoc, List.singleton_append, List.splitOn_append_cons_self,
        List.splitOn_eq_singleton hlast]
    · exact List.Subset.trans (subset_of_mem_splitOn hpart) (List.subset_append_left _ _)

/-! ### The names that are taken -/

namespace LocalTemplates

/-- A character that a template name may hold: an ASCII letter or digit, an underscore or a
slash. -/
def IsPathChar (c : Char) : Prop := c.isAlphanum = true ∨ c = '_' ∨ c = '/'

theorem isAsciiAlphanumeric_eq (c : Char) : isAsciiAlphanumeric c = c.isAlphanum := by
  have hupper : c.isUpper = (decide ('A' ≤ c) && decide (c ≤ 'Z')) := Bool.decide_and _ _
  show (c.isLower || (decide ('A' ≤ c) && decide (c ≤ 'Z')) || c.isDigit)
    = (c.isUpper || c.isLower || c.isDigit)
  rw [hupper, Bool.or_comm c.isLower]

theorem isNameChar_or_slash_iff {c : Char} :
    (isNameChar c || c == '/') = true ↔ IsPathChar c := by
  rw [isNameChar, isAsciiAlphanumeric_eq, IsPathChar, Bool.or_eq_true, Bool.or_eq_true, beq_iff_eq,
    beq_iff_eq, or_assoc]

/-- The names that are taken: not empty, no slash in front, and of the right characters. -/
theorem isLegalName_iff {name : List Char} :
    isLegalName name = true ↔
      name ≠ [] ∧ name.head? ≠ some '/' ∧ ∀ c ∈ name, IsPathChar c := by
  cases name with
  | nil => simp [isLegalName]
  | cons c rest =>
    have hrest : (rest.all fun c => isNameChar c || c == '/') = true ↔
        ∀ d ∈ rest, IsPathChar d := by
      rw [List.all_eq_true]
      exact forall₂_congr fun d hd => isNameChar_or_slash_iff
    rw [isLegalName, Bool.and_eq_true, hrest, List.forall_mem_cons, List.head?_cons]
    constructor
    · rintro ⟨hc, hall⟩
      refine ⟨List.cons_ne_nil c rest, ?_, ?_, hall⟩
      · rintro ⟨rfl⟩
        exact absurd hc (by decide)
      · exact isNameChar_or_slash_iff.1 (by rw [hc, Bool.true_or])
    · rintro ⟨-, hslash, hc, hall⟩
      refine ⟨?_, hall⟩
      rcases Bool.or_eq_true_iff.1 (isNameChar_or_slash_iff.2 hc) with hc | hc
      · exact hc
      · exact absurd (congrArg some (beq_iff_eq.1 hc)) hslash

end LocalTemplates

/-! ### What a path leads to -/

theorem FileTree.components_eq (path : String) :
    FileTree.components path = (path.toList.splitOn '/').map String.ofList := by
  rw [FileTree.components, splitOn_singleton]

/-- What a path without `..` leads to does not depend on what is above its start. -/
theorem FileTree.walk_above {names : List String} (hnames : ".." ∉ names) (tree : FileTree)
    (above above' : List FileTree) : tree.walk above names = tree.walk above' names := by
  induction names generalizing tree above above' with
  | nil => rfl
  | cons name rest ih =>
    obtain ⟨hname, hrest⟩ := List.ne_and_not_mem_of_not_mem_cons hnames
    cases tree with
    | file contents => rfl
    | directory entries =>
      simp only [walk, if_neg (Ne.symm hname)]
      split
      · exact ih hrest _ above above'
      · split
        · rfl
        · split
          · exact ih hrest _ _ _
          · rfl

end Liquid
