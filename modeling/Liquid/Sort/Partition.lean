import Liquid.Sort.Run
import Liquid.Sort.Short

/-!
# Sorting by partition

- `goodLength`: from which length on a natural run is worth keeping.
- `sortByRuns?`: a list is cut into runs, and the pieces between the natural ones are sorted as
  short lists.
- `pivotIndex`: a value that is likely to lie in the middle, as the median of medians of three.
- `sortByPartition?`: the values in front of a pivot and the others are sorted on their own. After
  too many divisions without success it goes on by runs.

There is a result unless the order contradicts itself; `perm_of_sortByPartition?` says that it holds
the values of the list.
-/

namespace Liquid.Sort

variable {α : Type} (before : α → α → Bool)

/-- The greatest length of a list that is sorted as a short one. -/
def shortLength : Nat := 32

/-- The least length of natural runs that are kept: half of a list, but at most 64, and in a list of
more than 4096 values about the square root of its length. -/
def goodLength (length : Nat) : Nat :=
  if length ≤ 4096 then min (length - length / 2) 64
  else
    let shift := (1 + Nat.log2 length) / 2
    (1 <<< shift + length >>> shift) / 2

/-- Sorts a list by its natural runs, with the pieces between them sorted as short lists. -/
def sortByRuns? (vs : List α) : Option (List α) :=
  let sort? := sortShort? before
  ((cutRuns before (goodLength vs.length) shortLength vs).mapM (Run.sort? sort?)).bind
    (sortRuns? before sort? vs.length)

/-- The one of three indices whose value stands between the two others. -/
def medianIndex (items : Array α) (a b c : Nat) : Nat :=
  let inFront (i j : Nat) : Bool :=
    match items[i]?, items[j]? with
    | some v, some w => before v w
    | _, _ => false
  let first := inFront a b
  if first != inFront a c then a
  else if inFront b c != first then c
  else b

/-- The index of a value that is likely to lie in the middle of the `width` values from `start`
on. -/
def pivotIndex (items : Array α) (start width : Nat) : Nat :=
  if 8 ≤ width then
    let eighth := width / 8
    medianIndex before items (pivotIndex items start eighth)
      (pivotIndex items (start + 4 * eighth) eighth) (pivotIndex items (start + 7 * eighth) eighth)
  else start
termination_by width

/-- Sorts a list, with at most so many divisions one in the other. All values of the list have
`floor`, if there is one, in front of them or at their side. If the pivot is at its side too, then
the values that the pivot has not in front of them are all alike and need no sorting. -/
def sortByPartition? : (divisions : Nat) → (floor : Option α) → (vs : List α) → Option (List α)
  | 0, _, vs => if vs.length ≤ shortLength then sortShort? before vs else sortByRuns? before vs
  | divisions + 1, floor, vs =>
    if vs.length ≤ shortLength then sortShort? before vs
    else
      let index := pivotIndex before vs.toArray 0 vs.length
      let front := vs.take index
      match vs.drop index with
      | [] => none
      | pivot :: behind =>
        let smaller := (front ++ behind).filter (before · pivot)
        if smaller.isEmpty || floor.any (!before · pivot) then do
          let alike (v : α) : Bool := !before pivot v
          let others ← sortByPartition? divisions none ((front ++ behind).filter (before pivot ·))
          return front.filter alike ++ pivot :: behind.filter alike ++ others
        else do
          let rest (v : α) : Bool := !before v pivot
          let greater ← sortByPartition? divisions (some pivot)
            (front.filter rest ++ pivot :: behind.filter rest)
          return (← sortByPartition? divisions floor smaller) ++ greater

/-! ### What sorting keeps -/

variable {before}

theorem perm_of_sortByRuns? {vs sorted : List α} (h : sortByRuns? before vs = some sorted) :
    sorted.Perm vs := by
  have hshort : ∀ vs ws, sortShort? before vs = some ws → ws.Perm vs :=
    fun _ _ => perm_of_sortShort? before
  obtain ⟨runs, hr, h⟩ := Option.bind_eq_some_iff.1 h
  exact ((perm_of_sortRuns? hshort h).trans (perm_of_mapM_sort? hshort hr)).trans
    (perm_cutRuns before _ _ vs)

/-- A list divided by a test, with one value of it standing among those that do not pass. -/
theorem perm_divide (p : α → Bool) (front behind : List α) (pivot : α) :
    ((front ++ behind).filter p ++ (front.filter (fun v => !p v) ++ pivot ::
      behind.filter fun v => !p v)).Perm (front ++ pivot :: behind) := by
  refine (List.perm_middle.append_left _).trans (List.perm_middle.trans (.trans ?_
    List.perm_middle.symm))
  rw [← List.filter_append]
  exact (List.filter_append_perm p (front ++ behind)).cons pivot

/-- Sorting neither loses nor adds a value. -/
theorem perm_of_sortByPartition? {divisions : Nat} {floor : Option α} {vs sorted : List α}
    (h : sortByPartition? before divisions floor vs = some sorted) : sorted.Perm vs := by
  induction divisions generalizing floor vs sorted with
  | zero =>
    simp only [sortByPartition?] at h
    split at h
    · exact perm_of_sortShort? before h
    · exact perm_of_sortByRuns? h
  | succ divisions ih =>
    simp only [sortByPartition?] at h
    split at h
    · exact perm_of_sortShort? before h
    · split at h
      · cases h
      · next pivot behind hdrop =>
        rw [← List.take_append_drop (pivotIndex before vs.toArray 0 vs.length) vs, hdrop]
        split at h
        · obtain ⟨others, ho, h⟩ := Option.bind_eq_some_iff.1 h
          cases h
          exact List.perm_append_comm.trans (((ih ho).append_right _).trans
            (perm_divide (before pivot ·) _ behind pivot))
        · obtain ⟨greater, hg, h⟩ := Option.bind_eq_some_iff.1 h
          obtain ⟨smaller, hs, h⟩ := Option.bind_eq_some_iff.1 h
          cases h
          refine ((ih hs).append (ih hg)).trans ?_
          exact perm_divide (before · pivot) _ behind pivot

end Liquid.Sort
