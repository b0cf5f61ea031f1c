import Liquid.Sort
import Liquid.Proofs.Sort.Insertion
import Liquid.Proofs.Sort.Run

/-!
# Sorting puts in order

Where the order does not contradict itself, every way of sorting has a result, in which the values
are in order and those that are alike have kept theirs. Which way is taken shows only in an order
that contradicts itself.

- `Sort.sortShort?_sorts`, `Sort.sortByRuns?_sorts`: short lists, and lists cut into runs.
- `Sort.pivotIndex_bounds`: the pivot is one of the values.
- `Sort.Consistent.rearranges_filter`: a list may be divided by a test if the values that pass have
  to stand in front of the others.
- `Sort.sortByPartition?_sorts`: division by a pivot.
- `Sort.sort?_sorts`, `Sort.sort?_of_pairwise`: sorting, and what it does to a list in order.
-/

namespace Liquid.Sort

variable {α : Type} {before : α → α → Bool} {P : α → Prop}

/-! ### Short lists -/

theorem sortHalf_sorts (h : Consistent before P) (four : Bool) {vs : List α}
    (hP : ∀ v ∈ vs, P v) : Sorts before P vs (sortHalf before four vs) := by
  unfold sortHalf
  split
  · next a b c d rest =>
    have hfour := sortFour_sorts h (a := a) (b := b) (c := c) (d := d) fun v hv =>
      hP v (List.mem_append_left rest hv)
    have hmoved :
        Rearranges before P (a :: b :: c :: d :: rest) (sortFour before a b c d ++ rest) :=
      hfour.toRearranges.append_right rest
    exact .of_rearranges hmoved (insertAll_sorts h hfour.sorted (hmoved.forall_mem hP))
  · exact insertAll_sorts h .nil hP

theorem sortShort?_sorts (h : Consistent before P) : SortsAll before P (sortShort? before) := by
  intro vs hP
  have hPl : ∀ v ∈ vs.take (vs.length / 2), P v := fun v hv => hP v (List.mem_of_mem_take hv)
  have hPr : ∀ v ∈ vs.drop (vs.length / 2), P v := fun v hv => hP v (List.mem_of_mem_drop hv)
  have hl := sortHalf_sorts h (8 ≤ vs.length) hPl
  have hr := sortHalf_sorts h (8 ≤ vs.length) hPr
  have hlength := hl.perm.length_eq
  have hlength' := hr.perm.length_eq
  rw [List.length_take] at hlength
  rw [List.length_drop] at hlength'
  obtain ⟨merged, hmerged, hsorts⟩ := mergeEnds?_sorts h hl.sorted hr.sorted
    (hl.toRearranges.forall_mem hPl) (hr.toRearranges.forall_mem hPr) (by omega) (by omega)
  refine ⟨merged, hmerged, .of_rearranges ?_ hsorts⟩
  have hhalves := hl.toRearranges.append hr.toRearranges
  rwa [List.take_append_drop] at hhalves

/-! ### Runs -/

theorem mapM_sort?_sound {order? : List α → Option (List α)} (horder : SortsAll before P order?)
    {runs : List (Run α)} (hruns : ∀ run ∈ runs, run.Sound before P) :
    ∃ sorted, runs.mapM (Run.sort? order?) = some sorted ∧
      (∀ run ∈ sorted, run.Sound before P) ∧
      Rearranges before P (runs.flatMap Run.items) (sorted.flatMap Run.items) := by
  induction runs with
  | nil => exact ⟨[], rfl, by simp, .refl before P []⟩
  | cons run runs ih =>
    have hrun : run.Sound before P := hruns run List.mem_cons_self
    obtain ⟨items, hsettle, hitems⟩ := run.settle?_sorts horder hrun
    obtain ⟨rest, hrest, hsound, hrearranges⟩ := ih fun other hother =>
      hruns other (List.mem_cons_of_mem run hother)
    have hsort : run.sort? order? = some ⟨items, true⟩ := by
      rw [Run.sort?, hsettle]
      rfl
    refine ⟨⟨items, true⟩ :: rest, ?_, List.forall_mem_cons.2 ⟨?_, hsound⟩,
      hitems.toRearranges.append hrearranges⟩
    · rw [List.mapM_cons, hsort, hrest]
      rfl
    · exact ⟨hitems.toRearranges.forall_mem hrun.holds, fun _ => hitems.sorted⟩

theorem sortByRuns?_sorts (h : Consistent before P) : SortsAll before P (sortByRuns? before) := by
  intro vs hP
  obtain ⟨hsound, hcut⟩ := cutRuns_sound h (goodLength vs.length) shortLength hP
  obtain ⟨runs, hruns, hsound, hrearranges⟩ := mapM_sort?_sound (sortShort?_sorts h) hsound
  obtain ⟨sorted, hsorted, hsorts⟩ := sortRuns?_sorts h (sortShort?_sorts h) vs.length hsound
  refine ⟨sorted, ?_, .of_rearranges (hcut.trans hrearranges) hsorts⟩
  rw [sortByRuns?, hruns]
  exact hsorted

/-! ### Division by a pivot -/

theorem medianIndex_cases (before : α → α → Bool) (items : Array α) (a b c : Nat) :
    medianIndex before items a b c = a ∨ medianIndex before items a b c = b ∨
      medianIndex before items a b c = c := by
  unfold medianIndex
  extract_lets inFront first
  split
  · exact .inl rfl
  · split
    · exact .inr (.inr rfl)
    · exact .inr (.inl rfl)

/-- The pivot is one of the values that it is chosen from. -/
theorem pivotIndex_bounds (before : α → α → Bool) (items : Array α) (start : Nat) {width : Nat}
    (hwidth : 0 < width) :
    start ≤ pivotIndex before items start width ∧
      pivotIndex before items start width < start + width := by
  fun_induction pivotIndex before items start width with
  | case1 start width hlarge eighth ih₁ ih₂ ih₃ =>
    have heighth : 0 < eighth ∧ 8 * eighth ≤ width := ⟨by omega, by omega⟩
    have h₁ := ih₁ heighth.1
    have h₂ := ih₂ heighth.1
    have h₃ := ih₃ heighth.1
    rcases medianIndex_cases before items (pivotIndex before items start eighth)
      (pivotIndex before items (start + 4 * eighth) eighth)
      (pivotIndex before items (start + 7 * eighth) eighth) with heq | heq | heq
    · rw [heq]
      omega
    · rw [heq]
      omega
    · rw [heq]
      omega
  | case2 start width hsmall => omega

/-- A longer list is divided by one of its values. -/
theorem sortByPartition?_succ (before : α → α → Bool) (divisions : Nat) (floor : Option α)
    {vs : List α} (hlong : ¬vs.length ≤ shortLength) :
    ∃ front pivot behind, vs = front ++ pivot :: behind ∧
      sortByPartition? before (divisions + 1) floor vs =
        if ((front ++ behind).filter (before · pivot)).isEmpty || floor.any (!before · pivot) then
          (sortByPartition? before divisions none ((front ++ behind).filter (before pivot ·))).map
            fun others => front.filter (fun v => !before pivot v) ++ pivot ::
              behind.filter (fun v => !before pivot v) ++ others
        else
          (sortByPartition? before divisions (some pivot)
            (front.filter (fun v => !before v pivot) ++ pivot :: behind.filter (fun v => !before v pivot))).bind fun greater =>
              (sortByPartition? before divisions floor
                ((front ++ behind).filter (before · pivot))).map (· ++ greater) := by
  have hpos : 0 < vs.length := by
    rw [shortLength] at hlong
    omega
  have hindex := (pivotIndex_bounds before vs.toArray 0 hpos).2
  rw [Nat.zero_add] at hindex
  generalize heq : pivotIndex before vs.toArray 0 vs.length = index at hindex
  have hdrop : vs.drop index = vs[index] :: vs.drop (index + 1) := List.drop_eq_getElem_cons hindex
  refine ⟨vs.take index, vs[index], vs.drop (index + 1), ?_, ?_⟩
  · rw [← hdrop, List.take_append_drop]
  · rw [sortByPartition?, if_neg hlong]
    simp only [heq, hdrop]
    split
    · cases sortByPartition? before divisions none _ <;> rfl
    · cases sortByPartition? before divisions (some _) _ with
      | none => rfl
      | some greater => cases sortByPartition? before divisions floor _ <;> rfl

/-- A list is divided by a test if every value that passes has to stand in front of every value that
does not. -/
theorem Consistent.rearranges_filter (h : Consistent before P) (p : α → Bool) {vs : List α}
    (hP : ∀ v ∈ vs, P v)
    (hlt : ∀ a ∈ vs, ∀ b ∈ vs, p a = true → p b = false → before a b = true) :
    Rearranges before P vs (vs.filter p ++ vs.filter fun v => !p v) := by
  induction vs with
  | nil => exact .refl before P []
  | cons v rest ih =>
    obtain ⟨hPv, hPrest⟩ := List.forall_mem_cons.1 hP
    have hrest := ih hPrest fun a ha b hb =>
      hlt a (List.mem_cons_of_mem v ha) b (List.mem_cons_of_mem v hb)
    cases hv : p v with
    | true =>
      rw [List.filter_cons_of_pos hv, List.filter_cons_of_neg (by simp [hv])]
      exact hrest.cons v
    | false =>
      rw [List.filter_cons_of_neg (by simp [hv]), List.filter_cons_of_pos (by simp [hv])]
      refine (hrest.cons v).trans ?_
      have hmove : Rearranges before P (v :: rest.filter p) (rest.filter p ++ [v]) := by
        refine h.rearranges_back hPv (fun b hb => hPrest b (List.mem_filter.1 hb).1) fun b hb => ?_
        obtain ⟨hmem, hpb⟩ := List.mem_filter.1 hb
        exact hlt b (List.mem_cons_of_mem v hmem) v List.mem_cons_self hpb hv
      rw [List.append_cons]
      exact hmove.append_right (rest.filter fun w => !p w)

/-- A list divided by a test, and its parts sorted on their own. -/
theorem Sorts.of_filter (h : Consistent before P) (p : α → Bool) {vs first last : List α}
    (hP : ∀ v ∈ vs, P v)
    (hlt : ∀ a ∈ vs, ∀ b ∈ vs, p a = true → p b = false → before a b = true)
    (hfirst : Sorts before P (vs.filter p) first)
    (hlast : Sorts before P (vs.filter fun v => !p v) last) :
    Sorts before P vs (first ++ last) := by
  refine .of_rearranges (h.rearranges_filter p hP hlt)
    { hfirst.toRearranges.append hlast.toRearranges with sorted := ?_ }
  refine List.pairwise_append.2 ⟨hfirst.sorted, hlast.sorted, fun a ha b hb => ?_⟩
  obtain ⟨ha, hpa⟩ := List.mem_filter.1 (hfirst.perm.mem_iff.1 ha)
  obtain ⟨hb, hpb⟩ := List.mem_filter.1 (hlast.perm.mem_iff.1 hb)
  exact h.leads (hP a ha) (hP b hb) (hlt a ha b hb hpa (by simpa using hpb))

section

variable {front behind others smaller greater : List α} {pivot : α}

/-- No value has to stand in front of the pivot if none is found that does, or if a value that leads
all others need not stand in front of the pivot. -/
theorem leads_pivot (h : Consistent before P) (hP : ∀ v ∈ front ++ pivot :: behind, P v)
    {floor : Option α}
    (hfloor : ∀ f ∈ floor, P f ∧ ∀ v ∈ front ++ pivot :: behind, Leads before f v)
    (hnone : ((front ++ behind).filter (before · pivot)).isEmpty = true ∨
      floor.any (!before · pivot) = true) :
    ∀ v ∈ front ++ pivot :: behind, Leads before pivot v := by
  intro v hv
  have hpivot : P pivot := hP pivot (by simp)
  rcases hnone with hempty | hany
  · have hothers := List.filter_eq_nil_iff.1 (List.isEmpty_iff.1 hempty)
    by_cases hmem : v ∈ front ++ behind
    · exact Bool.eq_false_iff.2 (hothers v hmem)
    · have heq : v = pivot := by
        rcases List.mem_append.1 hv with hv | hv
        · exact absurd (List.mem_append_left behind hv) hmem
        · rcases List.mem_cons.1 hv with hv | hv
          · exact hv
          · exact absurd (List.mem_append_right front hv) hmem
      rw [heq]
      exact h.leads_self hpivot
  · obtain ⟨f, hf, hleads⟩ : ∃ f, floor = some f ∧ before f pivot = false := by
      simpa [Option.any_eq_true] using hany
    obtain ⟨hPf, hleadsAll⟩ := hfloor f hf
    exact h.trans hpivot hPf (hP v hv) hleads (hleadsAll v hv)

/-- Where no value has to stand in front of the pivot, those that the pivot does not have to stand
in front of, either, are all alike. -/
theorem sorts_alike (h : Consistent before P) (hP : ∀ v ∈ front ++ pivot :: behind, P v)
    (hleads : ∀ v ∈ front ++ pivot :: behind, Leads before pivot v)
    (hothers : Sorts before P ((front ++ behind).filter (before pivot ·)) others) :
    Sorts before P (front ++ pivot :: behind)
      (front.filter (fun v => !before pivot v) ++ pivot ::
        behind.filter (fun v => !before pivot v) ++ others) := by
  have hpivot : P pivot := hP pivot (by simp)
  have hself : before pivot pivot = false := h.leads_self hpivot
  have hfirst : (front ++ pivot :: behind).filter (fun v => !before pivot v) =
      front.filter (fun v => !before pivot v) ++ pivot ::
        behind.filter (fun v => !before pivot v) := by
    rw [List.filter_append, List.filter_cons_of_pos (by simp [hself])]
  have hlast : (front ++ pivot :: behind).filter (fun v => !!before pivot v) =
      (front ++ behind).filter (before pivot ·) := by
    simp [hself]
  rw [← hfirst]
  rw [← hlast] at hothers
  have hback : ∀ v ∈ front ++ pivot :: behind, before pivot v = false → Leads before v pivot :=
    fun _ _ hv => hv
  refine .of_filter h _ hP (fun a ha b hb hpa hpb => ?_) (.of_pairwise ?_) hothers
  · exact h.before_of_leads_of_before (hP a ha) hpivot (hP b hb)
      (hback a ha (by simpa using hpa)) (by simpa using hpb)
  · refine List.pairwise_of_forall_mem_list fun a ha b hb => ?_
    obtain ⟨ha, hpa⟩ := List.mem_filter.1 ha
    exact h.trans (hP a ha) hpivot (hP b (List.mem_filter.1 hb).1)
      (hback a ha (by simpa using hpa)) (hleads b (List.mem_filter.1 hb).1)

/-- The values that have to stand in front of the pivot, and the others. -/
theorem sorts_divided (h : Consistent before P) (hP : ∀ v ∈ front ++ pivot :: behind, P v)
    (hsmaller : Sorts before P ((front ++ behind).filter (before · pivot)) smaller)
    (hgreater : Sorts before P (front.filter (fun v => !before v pivot) ++ pivot ::
      behind.filter (fun v => !before v pivot)) greater) :
    Sorts before P (front ++ pivot :: behind) (smaller ++ greater) := by
  have hpivot : P pivot := hP pivot (by simp)
  have hself : before pivot pivot = false := h.leads_self hpivot
  have hfirst : (front ++ pivot :: behind).filter (before · pivot) =
      (front ++ behind).filter (before · pivot) := by
    simp [hself]
  have hlast : (front ++ pivot :: behind).filter (fun v => !before v pivot) =
      front.filter (fun v => !before v pivot) ++ pivot ::
        behind.filter (fun v => !before v pivot) := by
    rw [List.filter_append, List.filter_cons_of_pos (by simp [hself])]
  rw [← hfirst] at hsmaller
  rw [← hlast] at hgreater
  exact .of_filter h _ hP (fun a ha b hb hpa hpb =>
    h.before_of_before_of_leads (hP a ha) hpivot (hP b hb) hpa hpb) hsmaller hgreater

end

/-- Division by a pivot. The values have `floor`, if there is one, in front of them or at their
side. -/
theorem sortByPartition?_sorts (h : Consistent before P) (divisions : Nat) (floor : Option α)
    {vs : List α} (hP : ∀ v ∈ vs, P v)
    (hfloor : ∀ f ∈ floor, P f ∧ ∀ v ∈ vs, Leads before f v) :
    ∃ sorted, sortByPartition? before divisions floor vs = some sorted ∧
      Sorts before P vs sorted := by
  induction divisions generalizing floor vs with
  | zero =>
    rw [sortByPartition?]
    by_cases hshort : vs.length ≤ shortLength
    · rw [if_pos hshort]
      exact sortShort?_sorts h vs hP
    · rw [if_neg hshort]
      exact sortByRuns?_sorts h vs hP
  | succ divisions ih =>
    by_cases hshort : vs.length ≤ shortLength
    · rw [sortByPartition?, if_pos hshort]
      exact sortShort?_sorts h vs hP
    · obtain ⟨front, pivot, behind, rfl, hdivided⟩ :=
        sortByPartition?_succ before divisions floor hshort
      rw [hdivided]
      have hmem : ∀ v ∈ front ++ behind, v ∈ front ++ pivot :: behind := by
        intro v hv
        rcases List.mem_append.1 hv with hv | hv
        · exact List.mem_append_left _ hv
        · exact List.mem_append_right _ (List.mem_cons_of_mem pivot hv)
      have hpivot : P pivot := hP pivot (by simp)
      have hPfilter : ∀ p : α → Bool, ∀ v ∈ (front ++ behind).filter p, P v := fun p v hv =>
        hP v (hmem v (List.mem_filter.1 hv).1)
      by_cases hleads : (((front ++ behind).filter (before · pivot)).isEmpty ||
        floor.any (!before · pivot)) = true
      · -- no value has to stand in front of the pivot
        obtain ⟨others, hothers, hsorts⟩ := ih none (hPfilter fun v => before pivot v) (by simp)
        refine ⟨_, ?_, sorts_alike h hP
          (leads_pivot h hP hfloor (by simpa using hleads)) hsorts⟩
        rw [if_pos hleads, hothers]
        rfl
      · have hrest : ∀ v ∈ front.filter (fun v => !before v pivot) ++ pivot ::
            behind.filter (fun v => !before v pivot),
            v ∈ front ++ pivot :: behind ∧ Leads before pivot v := by
          intro v hv
          rcases List.mem_append.1 hv with hv | hv
          · obtain ⟨hv, hleads⟩ := List.mem_filter.1 hv
            exact ⟨List.mem_append_left _ hv, by simpa [Leads] using hleads⟩
          · rcases List.mem_cons.1 hv with rfl | hv
            · exact ⟨by simp, h.leads_self hpivot⟩
            · obtain ⟨hv, hleads⟩ := List.mem_filter.1 hv
              exact ⟨hmem v (List.mem_append_right _ hv), by simpa [Leads] using hleads⟩
        obtain ⟨greater, hgreater, hsorts⟩ := ih (some pivot)
          (fun v hv => hP v (hrest v hv).1) (by
            intro f hf
            cases hf
            exact ⟨hpivot, fun v hv => (hrest v hv).2⟩)
        obtain ⟨smaller, hsmaller, hsorts'⟩ := ih floor
          (hPfilter fun v => before v pivot) fun f hf =>
            ⟨(hfloor f hf).1, fun v hv => (hfloor f hf).2 v (hmem v (List.mem_filter.1 hv).1)⟩
        refine ⟨smaller ++ greater, ?_, sorts_divided h hP hsorts' hsorts⟩
        rw [if_neg hleads, hgreater, hsmaller]
        rfl

/-- Sorting has a result, which is in order. -/
theorem sort?_sorts (h : Consistent before P) : SortsAll before P (sort? before) := by
  intro vs hP
  rw [sort?]
  by_cases hfew : vs.length ≤ 20
  · rw [if_pos hfew]
    exact ⟨_, rfl, insertAll_sorts h .nil hP⟩
  · rw [if_neg hfew]
    by_cases hshort : vs.length ≤ 2 * shortLength
    · rw [if_pos hshort]
      exact sortByRuns?_sorts h vs hP
    · rw [if_neg hshort]
      have hpartition : SortsAll before P
          fun piece => sortByPartition? before (2 * Nat.log2 piece.length) none piece :=
        fun _ hP => sortByPartition?_sorts h _ none hP (by simp)
      obtain ⟨hsound, hcut⟩ :=
        cutRuns_sound h (goodLength vs.length) (goodLength vs.length) hP
      obtain ⟨sorted, hsorted, hsorts⟩ := sortRuns?_sorts h hpartition vs.length hsound
      exact ⟨sorted, hsorted, .of_rearranges hcut hsorts⟩

/-- Sorting leaves a list that is in order as it stands. -/
theorem sort?_of_pairwise (h : Consistent before P) {vs : List α} (hP : ∀ v ∈ vs, P v)
    (hvs : vs.Pairwise (Leads before)) : sort? before vs = some vs := by
  obtain ⟨ws, hws, hsorts⟩ := sort?_sorts h vs hP
  rw [hws, Sorts.unique h hP hsorts (.of_pairwise hvs)]

end Liquid.Sort
