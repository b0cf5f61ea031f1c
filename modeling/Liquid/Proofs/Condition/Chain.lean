import Liquid.Condition
import Liquid.Proofs.Except
import Liquid.Proofs.Text.Fragments
import Mathlib.Data.List.Forall2

/-!
# Chains of comparisons

A condition is read from the fragments of its markup. The words `and` and `or` cut them into groups,
each group is read as a comparison, and the comparisons are joined from the right.

- `Join.apply`, `joinRight`: what joins say of truth values.
- `Condition.ofChain`, `Condition.evaluate_ofChain`: the condition that joins comparisons, and what
  it says.
- `Condition.groups_append`, `Condition.groups_join`: the cut into groups, from the first join on.
- `Condition.groups_eq`, `Condition.isJoin_of_mem_groups`, `Condition.countP_isJoin`: the groups and
  the joins are all the fragments, and no group has a join in it.
- `Condition.parseGroups_eq_ok_iff`, `Condition.forall₂_comparisons`: groups are read one by one.
-/

namespace Liquid

open Text

/-! ### Joins -/

namespace Join

/-- The word that a join is. -/
def text : Join → List Char
  | and => ['a', 'n', 'd']
  | or => ['o', 'r']

theorem ofFragment?_text (word : Join) : ofFragment? word.text = some word := by
  cases word with
  | and => rfl
  | or => rfl

theorem text_of_ofFragment? {s : List Char} {word : Join} (h : ofFragment? s = some word) :
    s = word.text := by
  rw [ofFragment?] at h
  split at h
  · next hs =>
    cases h
    exact String.ofList_injective hs
  · next hs =>
    cases h
    exact String.ofList_injective hs
  · cases h

theorem unbroken (word : Join) : Unbroken word.text := by
  cases word with
  | and => decide
  | or => decide

/-- What a join says of two truth values. -/
def apply : Join → Bool → Bool → Bool
  | and, a, b => a && b
  | or, a, b => a || b

end Join

/-- The fragment is one of the words that join comparisons. -/
def isJoin (fragment : List Char) : Bool := (Join.ofFragment? fragment).isSome

theorem isJoin_eq_false_iff {fragment : List Char} :
    isJoin fragment = false ↔ Join.ofFragment? fragment = none := by
  rw [isJoin, Option.isSome_eq_false_iff, Option.isNone_iff_eq_none]

/-- Truth values joined from the right: the first with all that follow joined. -/
def joinRight (first : Bool) : List (Join × Bool) → Bool
  | [] => first
  | (word, next) :: rest => word.apply first (joinRight next rest)

namespace Condition

/-! ### Conditions as chains -/

/-- The comparisons of a condition, in order. -/
def comparisons : Condition → List Comparison
  | last comparison => [comparison]
  | join comparison _ rest => comparison :: rest.comparisons

/-- The condition that joins comparisons from the right. -/
def ofChain (first : Comparison) : List (Join × Comparison) → Condition
  | [] => last first
  | (word, next) :: rest => join first word (ofChain next rest)

theorem comparisons_ofChain (first : Comparison) (rest : List (Join × Comparison)) :
    (ofChain first rest).comparisons = first :: rest.map Prod.snd := by
  induction rest generalizing first with
  | nil => rfl
  | cons next rest ih => exact congrArg (first :: ·) (ih next.2)

theorem evaluate_join (c : Context) (comparison : Comparison) (word : Join) (rest : Condition) :
    (join comparison word rest).evaluate c
      = word.apply (comparison.evaluate c) (rest.evaluate c) := by
  cases word with
  | and => rfl
  | or => rfl

theorem evaluate_ofChain (c : Context) (first : Comparison) (rest : List (Join × Comparison)) :
    (ofChain first rest).evaluate c
      = joinRight (first.evaluate c) (rest.map fun next => (next.1, next.2.evaluate c)) := by
  induction rest generalizing first with
  | nil => rfl
  | cons next rest ih =>
    rw [ofChain, evaluate_join, ih]
    rfl

/-! ### Groups -/

/-- Fragments that are no joins stand in front of the first group. -/
theorem groups_append {group : List (List Char)} (h : ∀ fragment ∈ group, isJoin fragment = false)
    (rest : List (List Char)) :
    groups (group ++ rest) = (group ++ (groups rest).1, (groups rest).2) := by
  induction group with
  | nil => rfl
  | cons fragment group ih =>
    have hnone := isJoin_eq_false_iff.1 (h fragment List.mem_cons_self)
    rw [List.cons_append, groups, hnone, ih fun f hf => h f (List.mem_cons_of_mem fragment hf)]
    rfl

/-- A join ends a group and begins another. -/
theorem groups_join (word : Join) (rest : List (List Char)) :
    groups (word.text :: rest) = ([], (word, (groups rest).1) :: (groups rest).2) := by
  rw [groups, word.ofFragment?_text]

/-- The groups and the joins between them are all the fragments. -/
theorem groups_eq (all : List (List Char)) :
    (groups all).1 ++ (groups all).2.flatMap (fun next => next.1.text :: next.2) = all := by
  induction all with
  | nil => rfl
  | cons fragment rest ih =>
    rw [groups]
    cases hjoin : Join.ofFragment? fragment with
    | none => exact congrArg (fragment :: ·) ih
    | some word =>
      rw [Join.text_of_ofFragment? hjoin]
      exact congrArg (word.text :: ·) ih

/-- No group has a join in it. -/
theorem isJoin_of_mem_groups (all : List (List Char)) :
    ∀ group ∈ (groups all).1 :: (groups all).2.map Prod.snd,
      ∀ fragment ∈ group, isJoin fragment = false := by
  induction all with
  | nil => exact List.forall_mem_cons.2 ⟨List.forall_mem_nil _, List.forall_mem_nil _⟩
  | cons fragment rest ih =>
    obtain ⟨hfirst, hothers⟩ := List.forall_mem_cons.1 ih
    rw [groups]
    cases hjoin : Join.ofFragment? fragment with
    | none =>
      exact List.forall_mem_cons.2
        ⟨List.forall_mem_cons.2 ⟨isJoin_eq_false_iff.2 hjoin, hfirst⟩, hothers⟩
    | some word => exact List.forall_mem_cons.2 ⟨List.forall_mem_nil _, ih⟩

/-- There are as many joins among the fragments as there are groups behind the first. -/
theorem countP_isJoin (all : List (List Char)) :
    all.countP isJoin = (groups all).2.length := by
  induction all with
  | nil => rfl
  | cons fragment rest ih =>
    rw [List.countP_cons, ih, groups, isJoin]
    cases Join.ofFragment? fragment with
    | none => rfl
    | some word => rfl

/-- Groups are read one by one, and what they are read as is joined. -/
theorem parseGroups_eq_ok_iff {markup : String} {group : List (List Char)}
    {others : List (Join × List (List Char))} {condition : Condition} :
    parseGroups markup group others = .ok condition ↔
      ∃ first rest, condition = ofChain first rest
        ∧ Comparison.parse markup group = .ok first
        ∧ List.Forall₂ (fun next part =>
            next.1 = part.1 ∧ Comparison.parse markup next.2 = .ok part.2) others rest := by
  induction others generalizing group condition with
  | nil =>
    simp only [parseGroups, bind_eq_ok_iff, pure_eq_ok, Except.ok.injEq]
    constructor
    · rintro ⟨first, hfirst, rfl⟩
      exact ⟨first, [], rfl, hfirst, .nil⟩
    · rintro ⟨first, rest, rfl, hfirst, hrest⟩
      cases hrest
      exact ⟨first, hfirst, rfl⟩
  | cons next others ih =>
    -- the join is behind the first group, and the group behind it is first in what is left
    simp only [parseGroups, bind_eq_ok_iff, pure_eq_ok, Except.ok.injEq, ih]
    constructor
    · rintro ⟨first, hfirst, condition, ⟨second, rest, rfl, hsecond, hrest⟩, rfl⟩
      exact ⟨first, (next.1, second) :: rest, rfl, hfirst, .cons ⟨rfl, hsecond⟩ hrest⟩
    · rintro ⟨first, rest, rfl, hfirst, hrest⟩
      cases hrest with
      | @cons _ part _ rest hpart hrest =>
        obtain ⟨hword, hsecond⟩ := hpart
        refine ⟨first, hfirst, _, ⟨part.2, rest, rfl, hsecond, hrest⟩, ?_⟩
        rw [hword]
        rfl

/-- What is read as a comparison has one fragment or three. -/
theorem length_of_parse_comparison {markup : String} {group : List (List Char)}
    {comparison : Comparison} (h : Comparison.parse markup group = .ok comparison) :
    group.length = 1 ∨ group.length = 3 := by
  unfold Comparison.parse at h
  split at h
  · exact .inl rfl
  · exact .inr rfl
  · cases h

/-- The comparisons of a condition and the groups that they are read from. -/
theorem forall₂_comparisons {markup : String} {group : List (List Char)}
    {others : List (Join × List (List Char))} {condition : Condition}
    (h : parseGroups markup group others = .ok condition) :
    List.Forall₂ (fun group comparison => Comparison.parse markup group = .ok comparison)
      (group :: others.map Prod.snd) condition.comparisons := by
  obtain ⟨first, rest, rfl, hfirst, hrest⟩ := parseGroups_eq_ok_iff.1 h
  rw [comparisons_ofChain]
  refine .cons hfirst ?_
  rw [List.forall₂_map_left_iff, List.forall₂_map_right_iff]
  exact hrest.imp fun _ _ hpart => hpart.2

end Condition

end Liquid
