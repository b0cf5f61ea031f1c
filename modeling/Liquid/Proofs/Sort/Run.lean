import Liquid.Sort.Run
import Liquid.Proofs.Sort.Merge

/-!
# Merging runs puts in order

Where the order does not contradict itself, a list that is cut into runs is sorted by merging them,
whichever runs are cut and in which order neighbours are merged.

- `Sort.Run.Sound`: a run that counts as sorted is in order.
- `Sort.naturalRun_sorts`, `Sort.cutRuns_sound`: the runs that are cut are sound, and put together
  they are the list.
- `Sort.joinRuns?_sound`, `Sort.collapse?_sound`, `Sort.mergeRuns?_sound`: each step of merging has
  a result that is sound again, and keeps the values of the runs, one run behind the other.
- `Sort.sortRuns?_sorts`: and so does all of it.
-/

namespace Liquid.Sort

variable {α : Type} {before : α → α → Bool} {P : α → Prop}

/-- The values of a run have `P`, and if it counts as sorted they are in order. -/
structure Run.Sound (before : α → α → Bool) (P : α → Prop) (run : Run α) : Prop where
  /-- The values are such as the order is meant for. -/
  holds : ∀ v ∈ run.items, P v
  /-- A run that counts as sorted is in order. -/
  sorted : run.sorted = true → run.items.Pairwise (Leads before)

/-! ### Cutting a list into runs -/

/-- A run that stands back to front goes on as long as its values follow each other. -/
theorem pairwise_extendRun (R : α → α → Prop) (follows : α → α → Bool)
    (htrans : ∀ {a b c}, P a → P b → P c → R a b → R b c → R a c)
    (hfollows : ∀ {a b}, P a → P b → follows a b = true → R b a) {run rest : List α}
    (hrun : run.Pairwise R) (hPrun : ∀ v ∈ run, P v) (hPrest : ∀ v ∈ rest, P v) :
    (extendRun follows run rest).1.Pairwise R := by
  fun_induction extendRun follows run rest with
  | case1 a run b rest hab ih =>
    have ha : P a := hPrun a List.mem_cons_self
    have hb : P b := hPrest b List.mem_cons_self
    have hba : R b a := hfollows ha hb hab
    refine ih (List.pairwise_cons.2 ⟨List.forall_mem_cons.2 ⟨hba, fun v hv => ?_⟩, hrun⟩)
      (List.forall_mem_cons.2 ⟨hb, hPrun⟩) fun v hv => hPrest v (List.mem_cons_of_mem b hv)
    exact htrans hb ha (hPrun v (List.mem_cons_of_mem a hv)) hba
      ((List.pairwise_cons.1 hrun).1 v hv)
  | case2 => exact hrun
  | case3 => exact hrun

/-- The natural run at the front of a list is in order, and what it holds has stood there. -/
theorem naturalRun_sorts (h : Consistent before P) {first : α} {rest : List α}
    (hP : ∀ v ∈ first :: rest, P v) :
    (naturalRun before first rest).1.Pairwise (Leads before) ∧
      Rearranges before P (first :: rest)
        ((naturalRun before first rest).1 ++ (naturalRun before first rest).2) := by
  cases rest with
  | nil => exact ⟨List.pairwise_singleton _ first, .refl before P [first]⟩
  | cons second rest =>
    have hfirst : P first := hP first (by simp)
    have hsecond : P second := hP second (by simp)
    have hPrun : ∀ v ∈ [second, first], P v := by
      simpa using ⟨hsecond, hfirst⟩
    have hPrest : ∀ v ∈ rest, P v := fun v hv => hP v (by simp [hv])
    rw [naturalRun]
    by_cases hlt : before second first = true
    · rw [if_pos hlt]
      -- each value has to stand in front of the one before it
      have hback : [second, first].Pairwise fun a b => before a b = true := by
        simpa using hlt
      have hdown := pairwise_extendRun (fun a b => before a b = true) (fun a b => before b a)
        (fun ha hb hc hab hbc => h.before_trans ha hb hc hab hbc) (fun _ _ hab => hab) hback hPrun
        hPrest
      have heq := (extendRun_spec (fun a b => before b a) [second, first] rest).1
      generalize extendRun (fun a b => before b a) [second, first] rest = result at hdown heq ⊢
      obtain ⟨run, behind⟩ := result
      have hPbehind : ∀ v ∈ run, P v := by
        intro v hv
        have hmem : v ∈ [second, first].reverse ++ rest := by
          rw [← heq]
          exact List.mem_append_left _ (List.mem_reverse.2 hv)
        exact hP v (by simpa using hmem)
      refine ⟨hdown.imp_of_mem fun ha hb hab =>
        h.leads (hPbehind _ ha) (hPbehind _ hb) hab, ?_⟩
      have hreverse : Rearranges before P run.reverse run.reverse.reverse :=
        h.rearranges_reverse (fun v hv => hPbehind v (List.mem_reverse.1 hv))
          (List.pairwise_reverse.2 hdown)
      rw [List.reverse_reverse] at hreverse
      exact (Rearranges.of_eq heq.symm).trans (hreverse.append_right behind)
    · rw [if_neg hlt]
      have hback : [second, first].Pairwise fun a b => Leads before b a := by
        simpa [Leads] using hlt
      have hup := pairwise_extendRun (fun a b => Leads before b a) (fun a b => !before b a)
        (fun ha hb hc hab hbc => h.trans hc hb ha hbc hab)
        (fun _ _ hab => by simpa [Leads] using hab) hback hPrun hPrest
      have heq := (extendRun_spec (fun a b => !before b a) [second, first] rest).1
      generalize extendRun (fun a b => !before b a) [second, first] rest = result at hup heq ⊢
      obtain ⟨run, behind⟩ := result
      exact ⟨List.pairwise_reverse.2 hup, .of_eq heq.symm⟩

/-- Runs that are cut from a list are sound, and put together they are the list. -/
theorem cutRuns_sound (h : Consistent before P) (good piece : Nat) {vs : List α}
    (hP : ∀ v ∈ vs, P v) :
    (∀ run ∈ cutRuns before good piece vs, run.Sound before P) ∧
      Rearranges before P vs ((cutRuns before good piece vs).flatMap Run.items) := by
  fun_induction cutRuns before good piece vs with
  | case1 => exact ⟨by simp, .refl before P []⟩
  | case2 v vs natural _ ih =>
    obtain ⟨hsorted, hrearranges⟩ := naturalRun_sorts h hP
    have hPrun := hrearranges.forall_mem hP
    obtain ⟨hsound, hrest⟩ := ih fun w hw => hPrun w (List.mem_append_right _ hw)
    refine ⟨List.forall_mem_cons.2 ⟨⟨fun w hw => ?_, fun _ => hsorted⟩, hsound⟩,
      hrearranges.trans (hrest.append_left natural.1)⟩
    exact hPrun w (List.mem_append_left _ hw)
  | case3 v vs _ _ ih =>
    obtain ⟨hv, hPvs⟩ := List.forall_mem_cons.1 hP
    obtain ⟨hsound, hrest⟩ := ih fun w hw => hPvs w (List.mem_of_mem_drop hw)
    refine ⟨List.forall_mem_cons.2 ⟨⟨List.forall_mem_cons.2 ⟨hv, fun w hw => ?_⟩, by simp⟩, hsound⟩,
      ?_⟩
    · exact hPvs w (List.mem_of_mem_take hw)
    · rw [List.flatMap_cons]
      refine (Rearranges.of_eq ?_).trans (hrest.append_left (v :: vs.take (piece - 1)))
      rw [List.cons_append, List.take_append_drop]

/-!
### Merging runs

`order?` sorts the values of a run that are not in order yet.
-/

section

variable {order? : List α → Option (List α)}

theorem Run.settle?_sorts (horder : SortsAll before P order?) {run : Run α}
    (hrun : run.Sound before P) :
    ∃ items, run.settle? order? = some items ∧ Sorts before P run.items items := by
  rw [Run.settle?]
  by_cases hsorted : run.sorted = true
  · rw [if_pos hsorted]
    exact ⟨run.items, rfl, .of_pairwise (hrun.sorted hsorted)⟩
  · rw [if_neg hsorted]
    exact horder run.items hrun.holds

theorem joinRuns?_sound (h : Consistent before P) (horder : SortsAll before P order?)
    {l r : Run α} (hl : l.Sound before P) (hr : r.Sound before P) :
    ∃ run, joinRuns? before order? l r = some run ∧ run.Sound before P ∧
      Rearranges before P (l.items ++ r.items) run.items := by
  have hholds : ∀ v ∈ l.items ++ r.items, P v := List.forall_mem_append.2 ⟨hl.holds, hr.holds⟩
  rw [joinRuns?]
  by_cases hsorted : (l.sorted || r.sorted) = true
  · rw [if_pos hsorted]
    obtain ⟨a, ha, hla⟩ := l.settle?_sorts horder hl
    obtain ⟨b, hb, hrb⟩ := r.settle?_sorts horder hr
    have hPa := hla.toRearranges.forall_mem hl.holds
    have hPb := hrb.toRearranges.forall_mem hr.holds
    have hmerge := merge_sorts h hla.sorted hrb.sorted hPa hPb
    have hrearranges := (hla.toRearranges.append hrb.toRearranges).trans hmerge.toRearranges
    rw [ha, hb]
    exact ⟨_, rfl, ⟨hrearranges.forall_mem hholds, fun _ => hmerge.sorted⟩, hrearranges⟩
  · rw [if_neg hsorted]
    exact ⟨_, rfl, ⟨hholds, by simp⟩, .refl before P _⟩

/-- The values of the runs on a stack, the leftmost run first. -/
def stackItems (stack : List (Run α × Nat)) : List α := stack.reverse.flatMap (·.1.items)

theorem stackItems_cons (run : Run α) (depth : Nat) (stack : List (Run α × Nat)) :
    stackItems ((run, depth) :: stack) = stackItems stack ++ run.items := by
  simp [stackItems, List.flatMap_append]

/-- Joining a run with those to its left. -/
theorem collapse?_sound (h : Consistent before P) (horder : SortsAll before P order?)
    (depth : Nat) {stack : List (Run α × Nat)} {current : Run α}
    (hstack : ∀ entry ∈ stack, entry.1.Sound before P) (hcurrent : current.Sound before P) :
    ∃ stack' current', collapse? before order? depth stack current = some (stack', current') ∧
      (∀ entry ∈ stack', entry.1.Sound before P) ∧ current'.Sound before P ∧
      Rearranges before P (stackItems stack ++ current.items)
        (stackItems stack' ++ current'.items) := by
  induction stack generalizing current with
  | nil => exact ⟨[], current, rfl, by simp, hcurrent, .refl before P _⟩
  | cons top stack ih =>
    obtain ⟨run, d⟩ := top
    have hrun : run.Sound before P := hstack (run, d) List.mem_cons_self
    rw [collapse?]
    by_cases hdepth : depth ≤ d
    · rw [if_pos hdepth]
      obtain ⟨joined, hjoined, hsound, hrearranges⟩ := joinRuns?_sound h horder hrun hcurrent
      obtain ⟨stack', current', hcollapse, hstack', hcurrent', hrest⟩ :=
        ih (fun entry hentry => hstack entry (List.mem_cons_of_mem _ hentry)) hsound
      refine ⟨stack', current', ?_, hstack', hcurrent', ?_⟩
      · rw [hjoined]
        exact hcollapse
      · rw [stackItems_cons, List.append_assoc]
        exact (hrearranges.append_left (stackItems stack)).trans hrest
    · rw [if_neg hdepth]
      exact ⟨_, _, rfl, hstack, hcurrent, .refl before P _⟩

/-- Merging runs from the left to the right. -/
theorem mergeRuns?_sound (h : Consistent before P) (horder : SortsAll before P order?)
    (length start : Nat) {stack : List (Run α × Nat)} {current : Run α} {runs : List (Run α)}
    (hstack : ∀ entry ∈ stack, entry.1.Sound before P) (hcurrent : current.Sound before P)
    (hruns : ∀ run ∈ runs, run.Sound before P) :
    ∃ run, mergeRuns? before order? length stack start current runs = some run ∧
      run.Sound before P ∧
      Rearranges before P (stackItems stack ++ current.items ++ runs.flatMap Run.items)
        run.items := by
  induction runs generalizing stack start current with
  | nil =>
    obtain ⟨stack', run, hcollapse, -, hrun, hrearranges⟩ :=
      collapse?_sound h horder 0 hstack hcurrent
    rw [mergeRuns?, hcollapse]
    refine ⟨run, rfl, hrun, ?_⟩
    have hnone : stack' = [] := stack_of_collapse?_zero hcollapse
    rw [hnone] at hrearranges
    rw [List.flatMap_nil, List.append_nil]
    exact hrearranges
  | cons next runs ih =>
    rw [mergeRuns?]
    generalize start + current.items.length = mid
    generalize meetingDepth length start mid (mid + next.items.length) = depth
    obtain ⟨stack', current', hcollapse, hstack', hcurrent', hrearranges⟩ :=
      collapse?_sound h horder depth hstack hcurrent
    have hnext : ∀ entry ∈ (current', depth) :: stack', entry.1.Sound before P :=
      List.forall_mem_cons.2 ⟨hcurrent', hstack'⟩
    obtain ⟨run, hmerge, hrun, hrest⟩ := ih mid hnext (hruns next List.mem_cons_self)
      fun run hrun => hruns run (List.mem_cons_of_mem next hrun)
    refine ⟨run, ?_, hrun, ?_⟩
    · rw [hcollapse]
      exact hmerge
    · rw [stackItems_cons] at hrest
      rw [List.flatMap_cons, ← List.append_assoc]
      exact ((hrearranges.append_right next.items).append_right _).trans hrest

/-- Sorting a list that is cut into runs. -/
theorem sortRuns?_sorts (h : Consistent before P) (horder : SortsAll before P order?)
    (length : Nat) {runs : List (Run α)} (hruns : ∀ run ∈ runs, run.Sound before P) :
    ∃ sorted, sortRuns? before order? length runs = some sorted ∧
      Sorts before P (runs.flatMap Run.items) sorted := by
  cases runs with
  | nil => exact ⟨[], rfl, sorts_nil before P⟩
  | cons run runs =>
    have hnone : ∀ entry ∈ ([] : List (Run α × Nat)), entry.1.Sound before P := by simp
    obtain ⟨merged, hmerge, hsound, hrearranges⟩ := mergeRuns?_sound h horder length 0 hnone
      (hruns run List.mem_cons_self) fun other hother =>
        hruns other (List.mem_cons_of_mem run hother)
    obtain ⟨items, hsettle, hsorts⟩ := merged.settle?_sorts horder hsound
    refine ⟨items, ?_, .of_rearranges hrearranges hsorts⟩
    rw [sortRuns?, hmerge]
    exact hsettle

end

end Liquid.Sort
