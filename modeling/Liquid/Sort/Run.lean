import Liquid.Sort.Merge

/-!
# Runs

Stretches of a list, and how a list is sorted by merging them. Values that happen to stand in order
are used as they stand.

- `naturalRun`: the run in order, or in the opposite order, that a list begins with.
- `cutRuns`: a list as runs. Where no natural run of a good length begins, a piece of fixed length
  is cut off as a run that is not sorted yet.
- `meetingDepth`: which neighbours are merged first. Two runs meet the deeper in the tree of merges,
  the more binary digits their middles share as fractions of the whole list.
- `mergeRuns?`: merges runs from the left to the right along that tree. Of two runs without order
  the values are only put together, in the hope of a longer list to sort.

There is a result unless sorting a run ends without one; `perm_of_mergeRuns?` says that it holds the
values of the runs.
-/

namespace Liquid.Sort

variable {α : Type} (before : α → α → Bool)

/-- A stretch of a list. -/
structure Run (α : Type) where
  /-- The values. -/
  items : List α
  /-- Whether the values are in order. -/
  sorted : Bool

/-! ### Cutting a list into runs -/

/-- Moves values from a list to a run, which stands back to front, as long as each follows the one
before it. -/
def extendRun (follows : α → α → Bool) : (run rest : List α) → List α × List α
  | a :: run, b :: rest =>
    if follows a b then extendRun follows (b :: a :: run) rest else (a :: run, b :: rest)
  | run, rest => (run, rest)

/-- The natural run at the front of a list, in order, and the values behind it. In the list, either
none of its values has to stand in front of the one before it, or else each of them has. -/
def naturalRun (first : α) : List α → List α × List α
  | [] => ([first], [])
  | second :: rest =>
    if before second first then extendRun (fun a b => before b a) [second, first] rest
    else
      let (run, rest) := extendRun (fun a b => !before b a) [second, first] rest
      (run.reverse, rest)

/-- What an extended run holds comes from the run and the list, and the rest is no longer than the
list. -/
theorem extendRun_spec (follows : α → α → Bool) (run rest : List α) :
    (extendRun follows run rest).1.reverse ++ (extendRun follows run rest).2 = run.reverse ++ rest ∧
      (extendRun follows run rest).2.length ≤ rest.length := by
  fun_induction extendRun follows run rest with
  | case1 a run b rest _ ih => exact ⟨by simpa using ih.1, Nat.le_succ_of_le ih.2⟩
  | case2 => exact ⟨rfl, Nat.le_refl _⟩
  | case3 => exact ⟨rfl, Nat.le_refl _⟩

/-- Behind a natural run the list is shorter. -/
theorem length_naturalRun (first : α) (rest : List α) :
    (naturalRun before first rest).2.length ≤ rest.length := by
  cases rest with
  | nil => exact Nat.le_refl _
  | cons second rest =>
    simp only [naturalRun]
    split
    · exact Nat.le_succ_of_le (extendRun_spec _ _ _).2
    · exact Nat.le_succ_of_le (extendRun_spec _ _ _).2

/-- A natural run and the values behind it are the values of the list. -/
theorem perm_naturalRun (first : α) (rest : List α) :
    ((naturalRun before first rest).1 ++ (naturalRun before first rest).2).Perm
      (first :: rest) := by
  cases rest with
  | nil => exact .refl _
  | cons second rest =>
    simp only [naturalRun]
    split
    · refine ((List.reverse_perm _).symm.append_right _).trans ?_
      rw [(extendRun_spec _ _ _).1]
      exact .refl _
    · rw [(extendRun_spec _ _ _).1]
      exact .refl _

/-- Cuts a list into runs: natural ones of at least `good` values, and pieces of `piece` values. -/
def cutRuns (good piece : Nat) : List α → List (Run α)
  | [] => []
  | v :: vs =>
    let natural := naturalRun before v vs
    if good ≤ natural.1.length then ⟨natural.1, true⟩ :: cutRuns good piece natural.2
    else ⟨v :: vs.take (piece - 1), false⟩ :: cutRuns good piece (vs.drop (piece - 1))
termination_by vs => vs.length
decreasing_by
  · exact Nat.lt_succ_of_le (length_naturalRun before v vs)
  · simp only [List.length_cons, List.length_drop]; omega

/-- Runs hold the values of the list that they are cut from. -/
theorem perm_cutRuns (good piece : Nat) (vs : List α) :
    ((cutRuns before good piece vs).flatMap Run.items).Perm vs := by
  fun_induction cutRuns before good piece vs with
  | case1 => exact .refl _
  | case2 v vs natural _ ih =>
    exact (ih.append_left natural.1).trans (perm_naturalRun before v vs)
  | case3 v vs _ _ ih =>
    refine ((ih.append_left _).cons v).trans ?_
    rw [List.take_append_drop]

/-!
### Merging runs

`order?` sorts the values of a run that are not in order yet.
-/

/-- The depth at which the runs from `start` to `mid` and from `mid` to `stop` meet, in a list of
the given length. -/
def meetingDepth (length start mid stop : Nat) : Nat :=
  let scale := (0x4000000000000000 + length - 1) / length
  63 - Nat.log2 (Nat.xor (scale * (start + mid)) (scale * (mid + stop)))

variable (order? : List α → Option (List α))

/-- The values of a run, put in order if they are not. -/
def Run.settle? (run : Run α) : Option (List α) :=
  if run.sorted then some run.items else order? run.items

/-- A run with its values in order. -/
def Run.sort? (run : Run α) : Option (Run α) :=
  (run.settle? order?).map fun items => ⟨items, true⟩

/-- Two neighbouring runs as one: merged, unless neither of them is in order. -/
def joinRuns? (l r : Run α) : Option (Run α) :=
  if l.sorted || r.sorted then do
    return ⟨merge before (← l.settle? order?) (← r.settle? order?), true⟩
  else some ⟨l.items ++ r.items, false⟩

/-- Joins a run with those to its left that meet their neighbour at the given depth or deeper. -/
def collapse? (depth : Nat) : (stack : List (Run α × Nat)) → (current : Run α) →
    Option (List (Run α × Nat) × Run α)
  | (run, d) :: stack, current =>
    if depth ≤ d then (joinRuns? before order? run current).bind (collapse? depth stack)
    else some ((run, d) :: stack, current)
  | [], current => some ([], current)

/-- Merges runs into one. To the left of `current`, which begins at `start`, stand the runs of
`stack` with the depths at which they meet their right neighbours. -/
def mergeRuns? (length : Nat) : (stack : List (Run α × Nat)) → (start : Nat) → (current : Run α) →
    (runs : List (Run α)) → Option (Run α)
  | stack, _, current, [] => (collapse? before order? 0 stack current).map Prod.snd
  | stack, start, current, next :: runs =>
    let mid := start + current.items.length
    let depth := meetingDepth length start mid (mid + next.items.length)
    (collapse? before order? depth stack current).bind fun (stack, current) =>
      mergeRuns? length ((current, depth) :: stack) mid next runs

/-- Sorts a list that is cut into runs. -/
def sortRuns? (length : Nat) : (runs : List (Run α)) → Option (List α)
  | [] => some []
  | run :: runs =>
    (mergeRuns? before order? length [] 0 run runs).bind fun run => run.settle? order?

/-! ### What merging keeps -/

variable {before order?} (hsort : ∀ vs ws, order? vs = some ws → ws.Perm vs)

include hsort

theorem perm_of_settle? {run : Run α} {items : List α} (h : run.settle? order? = some items) :
    items.Perm run.items := by
  simp only [Run.settle?] at h
  split at h
  · cases h; exact .refl _
  · exact hsort _ _ h

theorem perm_of_mapM_sort? {runs sorted : List (Run α)}
    (h : runs.mapM (Run.sort? order?) = some sorted) :
    (sorted.flatMap Run.items).Perm (runs.flatMap Run.items) := by
  induction runs generalizing sorted with
  | nil => cases h; exact .refl _
  | cons run runs ih =>
    rw [List.mapM_cons] at h
    obtain ⟨first, hf, h⟩ := Option.bind_eq_some_iff.1 h
    obtain ⟨rest, hr, h⟩ := Option.bind_eq_some_iff.1 h
    obtain ⟨items, hi, rfl⟩ := Option.map_eq_some_iff.1 hf
    cases h
    exact (perm_of_settle? hsort hi).append (ih hr)

theorem perm_of_joinRuns? {l r run : Run α} (h : joinRuns? before order? l r = some run) :
    run.items.Perm (l.items ++ r.items) := by
  simp only [joinRuns?] at h
  split at h
  · obtain ⟨a, ha, h⟩ := Option.bind_eq_some_iff.1 h
    obtain ⟨b, hb, h⟩ := Option.bind_eq_some_iff.1 h
    cases h
    exact (perm_merge before a b).trans
      ((perm_of_settle? hsort ha).append (perm_of_settle? hsort hb))
  · cases h; exact .refl _

theorem perm_of_collapse? {depth : Nat} {stack : List (Run α × Nat)} {current : Run α}
    {result : List (Run α × Nat) × Run α}
    (h : collapse? before order? depth stack current = some result) :
    (result.1.flatMap (·.1.items) ++ result.2.items).Perm
      (stack.flatMap (·.1.items) ++ current.items) := by
  induction stack generalizing current with
  | nil => cases h; exact .refl _
  | cons top stack ih =>
    simp only [collapse?] at h
    split at h
    · obtain ⟨joined, hj, h⟩ := Option.bind_eq_some_iff.1 h
      refine (ih h).trans (((perm_of_joinRuns? hsort hj).append_left _).trans ?_)
      simp only [List.flatMap_cons, ← List.append_assoc]
      exact List.perm_append_comm.append_right _
    · cases h; exact .refl _

omit hsort in
/-- At depth 0 every run is joined. -/
theorem stack_of_collapse?_zero {stack : List (Run α × Nat)} {current : Run α}
    {result : List (Run α × Nat) × Run α}
    (h : collapse? before order? 0 stack current = some result) : result.1 = [] := by
  induction stack generalizing current with
  | nil => cases h; rfl
  | cons top stack ih =>
    simp only [collapse?, Nat.zero_le, if_true] at h
    obtain ⟨joined, _, h⟩ := Option.bind_eq_some_iff.1 h
    exact ih h

theorem perm_of_mergeRuns? {length : Nat} {stack : List (Run α × Nat)} {start : Nat}
    {current run : Run α} {runs : List (Run α)}
    (h : mergeRuns? before order? length stack start current runs = some run) :
    run.items.Perm
      (stack.flatMap (·.1.items) ++ current.items ++ runs.flatMap Run.items) := by
  induction runs generalizing stack start current with
  | nil =>
    obtain ⟨result, hr, h⟩ := Option.map_eq_some_iff.1 h
    subst h
    have hp := perm_of_collapse? hsort hr
    rw [stack_of_collapse?_zero hr] at hp
    simpa using hp
  | cons next runs ih =>
    obtain ⟨result, hr, h⟩ := Option.bind_eq_some_iff.1 h
    refine (ih h).trans ?_
    simp only [List.flatMap_cons, ← List.append_assoc]
    refine (List.Perm.append_right _ ?_).append_right _
    exact List.perm_append_comm.trans (perm_of_collapse? hsort hr)

/-- Sorting runs neither loses nor adds a value. -/
theorem perm_of_sortRuns? {length : Nat} {runs : List (Run α)} {sorted : List α}
    (h : sortRuns? before order? length runs = some sorted) :
    sorted.Perm (runs.flatMap Run.items) := by
  cases runs with
  | nil => cases h; exact .refl _
  | cons run runs =>
    obtain ⟨merged, hm, h⟩ := Option.bind_eq_some_iff.1 h
    exact (perm_of_settle? hsort h).trans (by simpa using perm_of_mergeRuns? hsort hm)

end Liquid.Sort
