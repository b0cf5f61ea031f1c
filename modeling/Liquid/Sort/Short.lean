import Liquid.Sort.Insertion
import Liquid.Sort.Merge

/-!
# Sorting short lists

- `sortHalf`: by insertion, with the first four values put in order at once.
- `sortShort?`: the two halves of a list, each sorted, merged from both ends.

There is a result unless the order contradicts itself; `perm_of_sortShort?` says that it holds the
values of the list.
-/

namespace Liquid.Sort

variable {α : Type} (before : α → α → Bool)

/-- Sorts by insertion. With `four` set, the first four values are put in order beforehand. -/
def sortHalf (four : Bool) (vs : List α) : List α :=
  match four, vs with
  | true, a :: b :: c :: d :: rest => insertAll before (sortFour before a b c d) rest
  | _, vs => insertAll before [] vs

/-- Sorts a short list. -/
def sortShort? (vs : List α) : Option (List α) :=
  let half := vs.length / 2
  let four := 8 ≤ vs.length
  mergeEnds? before (sortHalf before four (vs.take half)) (sortHalf before four (vs.drop half))

theorem perm_sortHalf (four : Bool) (vs : List α) : (sortHalf before four vs).Perm vs := by
  unfold sortHalf
  split
  · next a b c d rest =>
    exact (perm_insertAll before _ rest).trans ((perm_sortFour before a b c d).append_right rest)
  · exact perm_insertAll before [] vs

/-- Sorting neither loses nor adds a value. -/
theorem perm_of_sortShort? {vs sorted : List α} (h : sortShort? before vs = some sorted) :
    sorted.Perm vs := by
  have hp := perm_of_mergeEnds? before h
  refine hp.trans (((perm_sortHalf before _ _).append (perm_sortHalf before _ _)).trans ?_)
  rw [List.take_append_drop]

end Liquid.Sort
