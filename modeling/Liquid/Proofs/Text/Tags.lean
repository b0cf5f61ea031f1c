import Mathlib.Data.List.TakeWhile
import Liquid.Proofs.Text.Blank
import Liquid.Text.Html

/-!
# Text without tags

Stripping takes blocks out first and tags afterwards. Where a block is taken out, the text around it
may become a tag, and that goes with the other tags: nothing is left in which a `<` has a `>` behind
it. Blocks and tags both begin with a `<` and end with a `>`, which is all that has to be known of
them.

- `Html.Untagged`: no `<` has a `>` behind it.
- `Html.tags_induction`: how tags are found in a text, as an induction.
- `Html.exists_of_behindBlock?`, `Html.behindBlock?_append`: where a block begins and ends.
- `Html.untagged_strip`, `Html.strip_eq_self_iff`: what is left is untagged, and untagged text
  stays.
- `Html.strip_sublist`: nothing is added or moved.
- `Html.strip_surrounded`: the text in front of the first `<` and behind the last `>` stays.
-/

namespace Liquid.Text.Html

/-- No `<` has a `>` behind it, however far. -/
def Untagged (s : List Char) : Prop := ∀ a b, s = a ++ '<' :: b → '>' ∉ b

theorem untagged_nil : Untagged [] := by
  intro a b h
  cases a <;> cases h

theorem untagged_cons_iff {c : Char} {s : List Char} :
    Untagged (c :: s) ↔ (c = '<' → '>' ∉ s) ∧ Untagged s := by
  constructor
  · intro h
    refine ⟨?_, fun a b hs => h (c :: a) b (by rw [hs, List.cons_append])⟩
    rintro rfl
    exact h [] s rfl
  · rintro ⟨hc, hs⟩ a b h
    cases a with
    | nil =>
      cases h
      exact hc rfl
    | cons d a =>
      cases h
      exact hs a b rfl

theorem untagged_of_not_mem_open {s : List Char} (h : '<' ∉ s) : Untagged s := by
  rintro a b rfl
  exact absurd (List.mem_append_right a List.mem_cons_self) h

theorem untagged_of_not_mem_close {s : List Char} (h : '>' ∉ s) : Untagged s := by
  rintro a b rfl hb
  exact h (List.mem_append_right a (List.mem_cons_of_mem _ hb))

/-- What stands behind a tag or a block stands in the whole text. -/
theorem sublist_behind (inner rest : List Char) : rest.Sublist ('<' :: (inner ++ '>' :: rest)) :=
  ((List.sublist_cons_self '>' rest).trans (List.sublist_append_right inner _)).trans
    (List.sublist_cons_self '<' _)

/-! ### Tags -/

@[simp] theorem stripTags_nil : stripTags [] = [] := by rw [stripTags]

theorem stripTags_cons {c : Char} (hc : c ≠ '<') (s : List Char) :
    stripTags (c :: s) = c :: stripTags s := by
  rw [stripTags]
  exact hc

/-- A `<` without a `>` behind it stays. -/
theorem stripTags_open {s : List Char} (h : '>' ∉ s) :
    stripTags ('<' :: s) = '<' :: stripTags s := by
  have hdrop : s.dropWhile (· != '>') = [] := by
    refine List.dropWhile_eq_nil_iff.2 fun c hc => bne_iff_ne.2 ?_
    rintro rfl
    exact h hc
  rw [stripTags]
  split
  · next h' => cases hdrop.symm.trans h'
  · rfl

/-- A tag goes, up to the first `>`. -/
theorem stripTags_tag {tag : List Char} (h : '>' ∉ tag) (s : List Char) :
    stripTags ('<' :: (tag ++ '>' :: s)) = stripTags s := by
  have hdrop : (tag ++ '>' :: s).dropWhile (· != '>') = '>' :: s := dropWhile_ne h
  rw [stripTags]
  split
  · next h' =>
    cases hdrop.symm.trans h'
    rfl
  · next h' => cases hdrop.symm.trans h'

/-- A text begins with a tag, with a `<` that has no `>` behind it, or with another character. -/
theorem tags_induction {P : List Char → Prop} (nil : P [])
    (tag : ∀ tag s, '>' ∉ tag → P s → P ('<' :: (tag ++ '>' :: s)))
    (opening : ∀ s, '>' ∉ s → P s → P ('<' :: s))
    (char : ∀ c s, c ≠ '<' → P s → P (c :: s)) (s : List Char) : P s := by
  match s with
  | [] => exact nil
  | c :: s =>
    by_cases hc : c = '<'
    · subst hc
      by_cases hs : '>' ∈ s
      · obtain ⟨a, b, heq, ha⟩ := List.eq_append_cons_of_mem hs
        have : b.length < s.length := by
          rw [heq, List.length_append, List.length_cons]
          omega
        rw [heq]
        exact tag a b ha (tags_induction nil tag opening char b)
      · exact opening s hs (tags_induction nil tag opening char s)
    · exact char c s hc (tags_induction nil tag opening char s)
termination_by s.length

theorem stripTags_sublist (s : List Char) : (stripTags s).Sublist s := by
  induction s using tags_induction with
  | nil => simp
  | tag tag s htag ih =>
    rw [stripTags_tag htag]
    exact ih.trans (sublist_behind tag s)
  | opening s hs ih =>
    rw [stripTags_open hs]
    exact ih.cons_cons '<'
  | char c s hc ih =>
    rw [stripTags_cons hc]
    exact ih.cons_cons c

theorem untagged_stripTags (s : List Char) : Untagged (stripTags s) := by
  induction s using tags_induction with
  | nil => simpa using untagged_nil
  | tag tag s htag ih =>
    rw [stripTags_tag htag]
    exact ih
  | opening s hs ih =>
    rw [stripTags_open hs, untagged_cons_iff]
    exact ⟨fun _ hmem => hs ((stripTags_sublist s).subset hmem), ih⟩
  | char c s hc ih =>
    rw [stripTags_cons hc, untagged_cons_iff]
    exact ⟨fun h => absurd h hc, ih⟩

theorem stripTags_of_untagged {s : List Char} (h : Untagged s) : stripTags s = s := by
  induction s with
  | nil => exact stripTags_nil
  | cons c s ih =>
    obtain ⟨hopen, hs⟩ := untagged_cons_iff.1 h
    by_cases hc : c = '<'
    · subst hc
      rw [stripTags_open (hopen rfl), ih hs]
    · rw [stripTags_cons hc, ih hs]

theorem stripTags_append {a : List Char} (ha : '<' ∉ a) (s : List Char) :
    stripTags (a ++ s) = a ++ stripTags s := by
  induction a with
  | nil => rfl
  | cons c a ih =>
    have hc : c ≠ '<' := (List.ne_of_not_mem_cons ha).symm
    rw [List.cons_append, stripTags_cons hc, ih (List.not_mem_of_not_mem_cons ha), List.cons_append]

theorem stripTags_append_behind {b : List Char} (hb : '>' ∉ b) (s : List Char) :
    stripTags (s ++ b) = stripTags s ++ b := by
  induction s using tags_induction with
  | nil => simpa using stripTags_of_untagged (untagged_of_not_mem_close hb)
  | tag tag s htag ih =>
    rw [List.cons_append, List.append_assoc, List.cons_append, stripTags_tag htag,
      stripTags_tag htag, ih]
  | opening s hs ih =>
    have hsb : '>' ∉ s ++ b := fun h => (List.mem_append.1 h).elim hs hb
    rw [List.cons_append, stripTags_open hsb, stripTags_open hs, ih, List.cons_append]
  | char c s hc ih =>
    rw [List.cons_append, stripTags_cons hc, stripTags_cons hc, ih, List.cons_append]

/-! ### Names of elements, in any case -/

/-- No other character becomes a character in front of the letters when its case is taken off. -/
theorem eq_of_foldCase {c m : Char} (hm : m.toNat < 'a'.toNat) (h : foldCase c = m) : c = m := by
  rw [foldCase] at h
  by_cases hlong : c = 'ſ'
  · rw [if_pos hlong] at h
    subst h
    exact absurd hm (by decide)
  · rw [if_neg hlong] at h
    by_cases hupper : c.val ≥ 'A'.val ∧ c.val ≤ 'Z'.val
    · have hlower : c.toLower.val = c.val + ('a'.val - 'A'.val) :=
        congrArg Char.val (dif_pos hupper)
      have hge : 65 ≤ c.val.toNat := hupper.1
      have hle : c.val.toNat ≤ 90 := hupper.2
      have hsum : c.toLower.val.toNat = c.val.toNat + 32 := by
        rw [hlower, UInt32.toNat_add]
        exact Nat.mod_eq_of_lt (by show c.val.toNat + 32 < 2 ^ 32; omega)
      rw [h] at hsum
      have : m.val.toNat < 97 := hm
      omega
    · rwa [show c.toLower = c from dif_neg hupper] at h

/-- What a text begins with in some case, and what follows it. -/
theorem afterFolded?_eq_some_iff {start s rest : List Char} :
    afterFolded? start s = some rest ↔ ∃ front, s = front ++ rest ∧ front.map foldCase = start := by
  induction start generalizing s with
  | nil => simp [afterFolded?, eq_comm]
  | cons a start ih =>
    cases s with
    | nil => simp [afterFolded?]
    | cons c s =>
      rw [afterFolded?]
      by_cases ha : a = foldCase c
      · rw [if_pos ha, ih]
        constructor
        · rintro ⟨front, rfl, rfl⟩
          exact ⟨c :: front, rfl, by rw [List.map_cons, ha]⟩
        · rintro ⟨front, hs, hfront⟩
          cases front with
          | nil => cases hfront
          | cons d front =>
            cases hs
            exact ⟨front, rfl, (List.cons.inj hfront).2⟩
      · rw [if_neg ha]
        constructor
        · intro h
          cases h
        · rintro ⟨front, hs, hfront⟩
          cases front with
          | nil => cases hfront
          | cons d front =>
            cases hs
            exact absurd (List.cons.inj hfront).1.symm ha

/-- An occurrence stays one when text is put behind it. -/
theorem afterFolded?_append_of_some {start s rest : List Char} (b : List Char)
    (h : afterFolded? start s = some rest) : afterFolded? start (s ++ b) = some (rest ++ b) := by
  obtain ⟨front, rfl, hfront⟩ := afterFolded?_eq_some_iff.1 h
  exact afterFolded?_eq_some_iff.2 ⟨front, List.append_assoc .., hfront⟩

/-- What begins a text only with more of it behind reaches into that. -/
theorem exists_of_afterFolded?_append {start s b rest : List Char}
    (hs : afterFolded? start s = none) (h : afterFolded? start (s ++ b) = some rest) :
    ∃ front, front ≠ [] ∧ b = front ++ rest ∧ (s ++ front).map foldCase = start := by
  obtain ⟨front, heq, hfront⟩ := afterFolded?_eq_some_iff.1 h
  have hwithin : ∀ behind, s ≠ front ++ behind := by
    intro behind heq
    have : afterFolded? start s = some behind := afterFolded?_eq_some_iff.2 ⟨front, heq, hfront⟩
    rw [hs] at this
    cases this
  rcases List.append_eq_append_iff.1 heq with ⟨x, rfl, hb⟩ | ⟨x, hx, -⟩
  · refine ⟨x, ?_, hb, hfront⟩
    rintro rfl
    exact hwithin [] (by rw [List.append_nil, List.append_nil])
  · exact absurd hx (hwithin x)

/-! ### Ends of blocks -/

/-- A pattern whose last character is a `>`. -/
def Closes (pat : List Char) : Prop := ∃ init, pat = init ++ ['>']

namespace Closes

variable {pat : List Char} (hpat : Closes pat)
include hpat

theorem exists_of_map {front : List Char} (h : front.map foldCase = pat) :
    ∃ init, front = init ++ ['>'] := by
  obtain ⟨init, rfl⟩ := hpat
  obtain ⟨init, last, rfl, -, hlast⟩ := List.map_eq_append_iff.1 h
  obtain ⟨c, rfl, hc⟩ := List.map_eq_singleton_iff.1 hlast
  cases eq_of_foldCase (by decide) hc
  exact ⟨init, rfl⟩

theorem exists_of_afterFolded? {s rest : List Char} (h : afterFolded? pat s = some rest) :
    ∃ front, s = front ++ '>' :: rest := by
  obtain ⟨front, rfl, hfront⟩ := afterFolded?_eq_some_iff.1 h
  obtain ⟨init, rfl⟩ := hpat.exists_of_map hfront
  exact ⟨init, by rw [List.append_assoc, List.singleton_append]⟩

theorem exists_of_behindFolded? {s rest : List Char} (h : behindFolded? pat s = some rest) :
    ∃ front, s = front ++ '>' :: rest := by
  induction s with
  | nil => exact hpat.exists_of_afterFolded? h
  | cons c s ih =>
    rw [behindFolded?] at h
    cases hafter : afterFolded? pat (c :: s) with
    | some rest' =>
      rw [hafter] at h
      cases h
      exact hpat.exists_of_afterFolded? hafter
    | none =>
      rw [hafter] at h
      obtain ⟨front, rfl⟩ := ih h
      exact ⟨c :: front, rfl⟩

variable {b : List Char} (hb : '>' ∉ b)
include hb

theorem behindFolded?_eq_none : behindFolded? pat b = none := by
  cases h : behindFolded? pat b with
  | none => rfl
  | some rest =>
    obtain ⟨front, rfl⟩ := hpat.exists_of_behindFolded? h
    exact absurd (List.mem_append_right front List.mem_cons_self) hb

/-- What closes does not reach into text without a `>`. -/
theorem afterFolded?_append (s : List Char) :
    afterFolded? pat (s ++ b) = (afterFolded? pat s).map (· ++ b) := by
  cases hs : afterFolded? pat s with
  | some rest => exact afterFolded?_append_of_some b hs
  | none =>
    cases h : afterFolded? pat (s ++ b) with
    | none => rfl
    | some rest =>
      obtain ⟨front, hne, rfl, hfront⟩ := exists_of_afterFolded?_append hs h
      obtain ⟨init, heq⟩ := hpat.exists_of_map hfront
      -- the last character of what is found stands behind `s`
      have hlast : front.getLast? = some '>' := by
        rw [← List.getLast?_concat, ← heq, List.getLast?_append, List.getLast?_eq_some_getLast hne,
          Option.some_or]
      exact absurd (List.mem_append_left rest (List.mem_of_getLast? hlast)) hb

theorem behindFolded?_append (s : List Char) :
    behindFolded? pat (s ++ b) = (behindFolded? pat s).map (· ++ b) := by
  induction s with
  | nil =>
    have hnil : behindFolded? pat [] = none := hpat.behindFolded?_eq_none (List.not_mem_nil)
    rw [List.nil_append, hnil, hpat.behindFolded?_eq_none hb]
    rfl
  | cons c s ih =>
    have hafter : afterFolded? pat (c :: (s ++ b)) = _ := hpat.afterFolded?_append hb (c :: s)
    rw [List.cons_append, behindFolded?, behindFolded?, hafter, ih]
    cases afterFolded? pat (c :: s) with
    | none => rfl
    | some rest => rfl

end Closes

/-! ### Blocks -/

theorem blocks_spec {block : List Char × List Char} (h : block ∈ blocks) :
    block.1.head? = some '<' ∧ Closes block.2 := by
  simp only [blocks, List.mem_cons, List.not_mem_nil, or_false] at h
  rcases h with rfl | rfl | rfl
  · exact ⟨rfl, "</script".toList, rfl⟩
  · exact ⟨rfl, "--".toList, rfl⟩
  · exact ⟨rfl, "</style".toList, rfl⟩

/-- A block begins with a `<` and ends with a `>`. -/
theorem exists_of_behindBlock? {s rest : List Char} (h : behindBlock? s = some rest) :
    ∃ block, s = '<' :: (block ++ '>' :: rest) := by
  obtain ⟨block, hblock, hfound⟩ := List.exists_of_findSome?_eq_some h
  obtain ⟨inner, hinner, hrest⟩ := Option.bind_eq_some_iff.1 hfound
  obtain ⟨hopens, hcloses⟩ := blocks_spec hblock
  obtain ⟨front, hs, hfront⟩ := afterFolded?_eq_some_iff.1 hinner
  obtain ⟨content, rfl⟩ := hcloses.exists_of_behindFolded? hrest
  rw [← hfront, List.head?_map] at hopens
  obtain ⟨c, hc, hfold⟩ := Option.map_eq_some_iff.1 hopens
  cases eq_of_foldCase (by decide) hfold
  obtain ⟨name, rfl⟩ := List.head?_eq_some_iff.1 hc
  exact ⟨name ++ content, by rw [hs, List.cons_append, List.append_assoc]⟩

theorem behindBlock?_eq_none_of_untagged {s : List Char} (h : Untagged s) :
    behindBlock? s = none := by
  cases hblock : behindBlock? s with
  | none => rfl
  | some rest =>
    obtain ⟨block, rfl⟩ := exists_of_behindBlock? hblock
    exact absurd (List.mem_append_right block List.mem_cons_self) ((untagged_cons_iff.1 h).1 rfl)

theorem behindBlock?_cons_eq_none {c : Char} (hc : c ≠ '<') (s : List Char) :
    behindBlock? (c :: s) = none := by
  cases hblock : behindBlock? (c :: s) with
  | none => rfl
  | some rest =>
    obtain ⟨block, heq⟩ := exists_of_behindBlock? hblock
    exact absurd (List.cons.inj heq).1 hc

theorem findSome?_congr {α β : Type} {f g : α → Option β} {l : List α} (h : ∀ x ∈ l, f x = g x) :
    l.findSome? f = l.findSome? g := by
  induction l with
  | nil => rfl
  | cons x l ih =>
    rw [List.findSome?_cons, List.findSome?_cons, h x List.mem_cons_self,
      ih fun y hy => h y (List.mem_cons_of_mem x hy)]

/-- No block reaches into text without a `>`. -/
theorem behindBlock?_append {b : List Char} (hb : '>' ∉ b) (s : List Char) :
    behindBlock? (s ++ b) = (behindBlock? s).map (· ++ b) := by
  rw [behindBlock?, behindBlock?, List.map_findSome?]
  refine findSome?_congr fun block hblock => ?_
  obtain ⟨-, hcloses⟩ := blocks_spec hblock
  show _ = ((afterFolded? block.1 s).bind (behindFolded? block.2)).map (· ++ b)
  cases hs : afterFolded? block.1 s with
  | some inner =>
    rw [afterFolded?_append_of_some b hs]
    exact hcloses.behindFolded?_append hb inner
  | none =>
    cases h : afterFolded? block.1 (s ++ b) with
    | none => rfl
    | some rest =>
      obtain ⟨front, -, rfl, -⟩ := exists_of_afterFolded?_append hs h
      exact hcloses.behindFolded?_eq_none fun hmem => hb (List.mem_append_right front hmem)

@[simp] theorem stripBlocks_nil : stripBlocks [] = [] := by rw [stripBlocks]

theorem stripBlocks_of_some {s rest : List Char} (h : behindBlock? s = some rest) :
    stripBlocks s = stripBlocks rest := by
  cases s with
  | nil => cases h
  | cons c s =>
    rw [stripBlocks]
    split
    · next h' =>
      cases h.symm.trans h'
      rfl
    · next h' => cases h.symm.trans h'

theorem stripBlocks_of_none {c : Char} {s : List Char} (h : behindBlock? (c :: s) = none) :
    stripBlocks (c :: s) = c :: stripBlocks s := by
  rw [stripBlocks]
  split
  · next h' => cases h.symm.trans h'
  · rfl

theorem stripBlocks_sublist (s : List Char) : (stripBlocks s).Sublist s := by
  induction s using stripBlocks.induct with
  | case1 => simp
  | case2 c s rest h ih =>
    obtain ⟨block, heq⟩ := exists_of_behindBlock? h
    rw [stripBlocks_of_some h, heq]
    exact ih.trans (sublist_behind block rest)
  | case3 c s h ih =>
    rw [stripBlocks_of_none h]
    exact ih.cons_cons c

theorem stripBlocks_of_untagged {s : List Char} (h : Untagged s) : stripBlocks s = s := by
  induction s with
  | nil => exact stripBlocks_nil
  | cons c s ih =>
    rw [stripBlocks_of_none (behindBlock?_eq_none_of_untagged h), ih (untagged_cons_iff.1 h).2]

theorem stripBlocks_append {a : List Char} (ha : '<' ∉ a) (s : List Char) :
    stripBlocks (a ++ s) = a ++ stripBlocks s := by
  induction a with
  | nil => rfl
  | cons c a ih =>
    have hc : c ≠ '<' := (List.ne_of_not_mem_cons ha).symm
    rw [List.cons_append, stripBlocks_of_none (behindBlock?_cons_eq_none hc _),
      ih (List.not_mem_of_not_mem_cons ha), List.cons_append]

theorem stripBlocks_append_behind {b : List Char} (hb : '>' ∉ b) (s : List Char) :
    stripBlocks (s ++ b) = stripBlocks s ++ b := by
  induction s using stripBlocks.induct with
  | case1 => simpa using stripBlocks_of_untagged (untagged_of_not_mem_close hb)
  | case2 c s rest h ih =>
    have hblock : behindBlock? (c :: s ++ b) = some (rest ++ b) := by
      rw [behindBlock?_append hb, h]
      rfl
    rw [stripBlocks_of_some hblock, stripBlocks_of_some h, ih]
  | case3 c s h ih =>
    have hblock : behindBlock? (c :: (s ++ b)) = none := by
      rw [← List.cons_append, behindBlock?_append hb, h]
      rfl
    rw [List.cons_append, stripBlocks_of_none hblock, stripBlocks_of_none h, ih, List.cons_append]

/-! ### Stripping -/

/-- Nothing is left in which a `<` has a `>` behind it, also where a block stood in between. -/
theorem untagged_strip (s : List Char) : Untagged (strip s) := untagged_stripTags _

theorem strip_of_untagged {s : List Char} (h : Untagged s) : strip s = s := by
  rw [strip, stripBlocks_of_untagged h, stripTags_of_untagged h]

/-- Untagged text stays as it is, and no other text does. -/
theorem strip_eq_self_iff {s : List Char} : strip s = s ↔ Untagged s := by
  constructor
  · intro h
    rw [← h]
    exact untagged_strip s
  · exact strip_of_untagged

/-- What is left stands in the text in the same order. -/
theorem strip_sublist (s : List Char) : (strip s).Sublist s :=
  (stripTags_sublist _).trans (stripBlocks_sublist s)

/-- The text in front of the first `<` and behind the last `>` stays. -/
theorem strip_surrounded {a b : List Char} (ha : '<' ∉ a) (hb : '>' ∉ b) (s : List Char) :
    strip (a ++ s ++ b) = a ++ strip s ++ b := by
  rw [strip, stripBlocks_append_behind hb, stripBlocks_append ha, stripTags_append_behind hb,
    stripTags_append ha, strip]

end Liquid.Text.Html
