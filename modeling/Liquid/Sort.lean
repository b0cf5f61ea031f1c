import Liquid.Sort.Partition

/-!
# Sorting

A stable sort by an order that is given as `before`: whether its first argument has to stand in
front of its second.

- `Sort.sort?`: sorts a list. What `before` says may contradict itself, as where `a` has to stand
  before `b` and `b` before `c`, but neither `a` nor `c` before the other. Up to twenty values are
  sorted by insertion, which has a result then too.
- `Sort.perm_of_sort?`: a sorted list holds the values of the list.
-/

namespace Liquid.Sort

variable {α : Type} (before : α → α → Bool)

/-- Sorts a list. There is no result if its order is found to contradict itself. -/
def sort? (vs : List α) : Option (List α) :=
  if vs.length ≤ 20 then some (insertAll before [] vs)
  else if vs.length ≤ 2 * shortLength then sortByRuns? before vs
  else
    let good := goodLength vs.length
    let byPartition (vs : List α) := sortByPartition? before (2 * Nat.log2 vs.length) none vs
    sortRuns? before byPartition vs.length (cutRuns before good good vs)

/-- Sorting neither loses nor adds a value. -/
theorem perm_of_sort? {vs sorted : List α} (h : sort? before vs = some sorted) :
    sorted.Perm vs := by
  simp only [sort?] at h
  split at h
  · cases h; exact perm_insertAll before [] vs
  · split at h
    · exact perm_of_sortByRuns? h
    · refine (perm_of_sortRuns? (fun _ _ => perm_of_sortByPartition?) h).trans ?_
      exact perm_cutRuns before _ _ vs

end Liquid.Sort
