/-!
# Merging sorted lists

Of two values of which neither has to stand in front of the other, that of the first list does.

- `merge`: from the front, or from the back if the first list is the longer one.
- `mergeFirst`: the first so many values of a merge.
- `mergeEnds?`: from both ends at once, each up to the middle. An order that contradicts itself can
  lead both ends to one value; there is no result then.

`perm_merge` and `perm_of_mergeEnds?` say that nothing is lost or added.
-/

namespace Liquid.Sort

variable {α : Type} (before : α → α → Bool)

/-- Merges two sorted lists. -/
def merge (l r : List α) : List α :=
  if l.length ≤ r.length then l.merge r fun a b => !before b a
  else (r.reverse.merge l.reverse fun b a => !before b a).reverse

/-- The first `n` values of the merge of two lists, and what is left of the lists. There are fewer
if one of the lists ends. -/
def mergeFirst : (n : Nat) → (l r : List α) → List α × List α × List α
  | n + 1, a :: l, b :: r =>
    if before b a then
      let (taken, left) := mergeFirst n (a :: l) r
      (b :: taken, left)
    else
      let (taken, left) := mergeFirst n l (b :: r)
      (a :: taken, left)
  | _, l, r => ([], l, r)

/-- Merges two sorted lists, of which the second is as long as the first or longer by one, from both
ends. -/
def mergeEnds? (l r : List α) : Option (List α) :=
  let (front, l₁, r₁) := mergeFirst before l.length l r
  let (back, r₂, l₂) := mergeFirst (fun b a => before a b) l.length r.reverse l.reverse
  if l₁.length + l₂.length < l.length ∨ r₁.length + r₂.length < r.length then none
  else
    let middle := l₁.take (l₁.length + l₂.length - l.length)
      ++ r₁.take (r₁.length + r₂.length - r.length)
    some (front ++ middle ++ back.reverse)

/-- Merging neither loses nor adds a value. -/
theorem perm_merge (l r : List α) : (merge before l r).Perm (l ++ r) := by
  unfold merge
  split
  · exact List.merge_perm_append _
  · refine (List.reverse_perm _).trans ((List.merge_perm_append _).trans ?_)
    exact ((List.reverse_perm r).append (List.reverse_perm l)).trans List.perm_append_comm

/-- What is taken from two lists, and what is left of them, is what they hold. -/
theorem mergeFirst_eq (n : Nat) (l r : List α) :
    ∃ a b, l = a ++ (mergeFirst before n l r).2.1 ∧ r = b ++ (mergeFirst before n l r).2.2 ∧
      (mergeFirst before n l r).1.Perm (a ++ b) := by
  fun_induction mergeFirst before n l r with
  | case1 n a l b r _ taken left h ih =>
    obtain ⟨s, t, hl, hr, hp⟩ := ih
    rw [h] at hl hr hp
    exact ⟨s, b :: t, hl, by rw [hr]; rfl, (hp.cons b).trans List.perm_middle.symm⟩
  | case2 n a l b r _ taken left h ih =>
    obtain ⟨s, t, hl, hr, hp⟩ := ih
    rw [h] at hl hr hp
    exact ⟨a :: s, t, by rw [hl]; rfl, hr, hp.cons a⟩
  | case3 => exact ⟨[], [], rfl, rfl, .refl _⟩

/-- A beginning and an end of a list that do not overlap, with the values between them, are the
list. -/
theorem append_take_append {l a b left right : List α} (hfront : l = a ++ right)
    (hback : l = left ++ b) (hlength : l.length ≤ right.length + left.length) :
    a ++ right.take (right.length + left.length - l.length) ++ b = l := by
  have hl : l.length = a.length + right.length := by rw [hfront, List.length_append]
  have hleft : left = a ++ right.take (left.length - a.length) := by
    have h := congrArg (List.take left.length) (hfront.symm.trans hback)
    rw [List.take_append, List.take_left, List.take_of_length_le (by omega)] at h
    exact h.symm
  rw [show right.length + left.length - l.length = left.length - a.length by omega, ← hleft]
  exact hback.symm

/-- Merging from both ends neither loses nor adds a value. -/
theorem perm_of_mergeEnds? {l r merged : List α} (h : mergeEnds? before l r = some merged) :
    merged.Perm (l ++ r) := by
  obtain ⟨a, b, hl, hr, hp⟩ := mergeFirst_eq before l.length l r
  obtain ⟨c, d, hr', hl', hp'⟩ :=
    mergeFirst_eq (fun b a => before a b) l.length r.reverse l.reverse
  simp only [mergeEnds?] at h
  generalize mergeFirst before l.length l r = first at *
  generalize mergeFirst (fun b a => before a b) l.length r.reverse l.reverse = last at *
  obtain ⟨front, l₁, r₁⟩ := first
  obtain ⟨back, r₂, l₂⟩ := last
  dsimp only at *
  split at h
  · cases h
  · next hlength =>
    cases h
    simp only [not_or, Nat.not_lt] at hlength
    have hl'' := congrArg List.reverse hl'
    have hr'' := congrArg List.reverse hr'
    simp only [List.reverse_reverse, List.reverse_append] at hl'' hr''
    have hleft := append_take_append hl hl'' (by simpa using hlength.1)
    have hright := append_take_append hr hr'' (by simpa using hlength.2)
    classical
    refine List.perm_iff_count.2 fun x => ?_
    have hp := hp.count_eq x
    have hp' := hp'.count_eq x
    have hleft := congrArg (List.count x) hleft
    have hright := congrArg (List.count x) hright
    simp only [List.length_reverse, List.count_append, List.count_reverse] at *
    omega

end Liquid.Sort
