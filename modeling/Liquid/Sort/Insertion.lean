/-!
# Sorting by insertion

An order is given by `before`: whether its first argument has to stand in front of its second.
Values of which neither has to stand in front of the other keep their places.

- `insertBack`, `insertAll`: put one value, or many, into a sorted list.
- `sortFour`: four values in order, with at most five comparisons.

`perm_insertAll` and `perm_sortFour` say that nothing is lost or added.
-/

namespace Liquid.Sort

variable {α : Type} (before : α → α → Bool)

/-- Puts a value into a list that stands back to front, in front of all that it need not
precede. -/
def insertBack (v : α) : List α → List α
  | [] => [v]
  | w :: rest => if before v w then w :: insertBack v rest else v :: w :: rest

/-- Puts values into a sorted list. Each is moved to the front as far as it must be. -/
def insertAll (sorted vs : List α) : List α :=
  (vs.foldl (fun back v => insertBack before v back) sorted.reverse).reverse

/-- Two values in order. -/
def inOrder (a b : α) : α × α := if before b a then (b, a) else (a, b)

/-- Four values in order: the two pairs are put in order, then the first and the last of all are
found, and at last the two between them are put in order. -/
def sortFour (a b c d : α) : List α :=
  let (a, b) := inOrder before a b
  let (c, d) := inOrder before c d
  match before c a, before d b with
  | false, false => let (b, c) := inOrder before b c; [a, b, c, d]
  | false, true => [a, c, d, b]
  | true, false => [c, a, b, d]
  | true, true => let (a, d) := inOrder before a d; [c, a, d, b]

theorem perm_insertBack (v : α) (vs : List α) : (insertBack before v vs).Perm (v :: vs) := by
  induction vs with
  | nil => exact .refl _
  | cons w rest ih =>
    simp only [insertBack]
    split
    · exact (ih.cons w).trans (.swap v w rest)
    · exact .refl _

/-- Insertion neither loses nor adds a value. -/
theorem perm_insertAll (sorted vs : List α) : (insertAll before sorted vs).Perm (sorted ++ vs) := by
  suffices h : ∀ back : List α,
      (vs.foldl (fun back v => insertBack before v back) back).Perm (back ++ vs) from
    (List.reverse_perm _).trans ((h _).trans ((List.reverse_perm sorted).append_right vs))
  induction vs with
  | nil => intro back; simp
  | cons v rest ih =>
    intro back
    refine (ih _).trans (((perm_insertBack before v back).append_right rest).trans ?_)
    exact List.perm_middle.symm

theorem perm_inOrder (a b : α) : [(inOrder before a b).1, (inOrder before a b).2].Perm [a, b] := by
  unfold inOrder
  split
  · exact .swap a b []
  · exact .refl _

/-- Putting four values in order neither loses nor adds one. -/
theorem perm_sortFour (a b c d : α) : (sortFour before a b c d).Perm [a, b, c, d] := by
  refine .trans ?_ ((perm_inOrder before a b).append (perm_inOrder before c d))
  simp only [sortFour]
  generalize inOrder before a b = p, inOrder before c d = q
  obtain ⟨a, b⟩ := p
  obtain ⟨c, d⟩ := q
  dsimp only
  split
  · exact .cons a ((perm_inOrder before b c).append_right [d])
  · exact .cons a (List.perm_append_comm : ([c, d] ++ [b]).Perm ([b] ++ [c, d]))
  · exact (List.perm_middle : ([a, b] ++ c :: [d]).Perm _).symm
  · refine .trans (.cons c ((perm_inOrder before a d).append_right [b])) ?_
    refine .trans (List.perm_middle : ([a, d] ++ c :: [b]).Perm _).symm (.cons a ?_)
    exact (List.perm_append_comm : ([d] ++ [c, b]).Perm _).trans
      ((List.perm_append_comm : ([c] ++ [b]).Perm _).append_right [d])

end Liquid.Sort
