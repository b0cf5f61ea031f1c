import Liquid.Sort.Insertion
import Liquid.Proofs.Sort.Order

/-!
# Sorting by insertion puts in order

Where the order does not contradict itself, insertion sorts, and four values are sorted by the
comparisons that are made of them.

- `Sort.insertAll_sorts`: values put into a list that is in order.
- `Sort.sortFour_sorts`: four values.
-/

namespace Liquid.Sort

variable {α : Type} {before : α → α → Bool} {P : α → Prop}

/-! ### Insertion -/

/-- The list stands back to front: each value is led by those behind it. -/
theorem pairwise_insertBack (h : Consistent before P) {v : α} (hv : P v) {back : List α}
    (hback : ∀ w ∈ back, P w) (hsorted : back.Pairwise fun b a => Leads before a b) :
    (insertBack before v back).Pairwise fun b a => Leads before a b := by
  induction back with
  | nil => exact List.pairwise_singleton _ v
  | cons w rest ih =>
    obtain ⟨hw, hrest⟩ := List.pairwise_cons.1 hsorted
    obtain ⟨hPw, hPrest⟩ := List.forall_mem_cons.1 hback
    rw [insertBack]
    by_cases hlt : before v w = true
    · rw [if_pos hlt]
      refine List.pairwise_cons.2 ⟨fun x hx => ?_, ih hPrest hrest⟩
      rcases List.mem_cons.1 ((perm_insertBack before v rest).mem_iff.1 hx) with rfl | hx
      · exact h.leads hv hPw hlt
      · exact hw x hx
    · rw [if_neg hlt]
      have hwv : Leads before w v := Bool.eq_false_iff.2 hlt
      refine List.pairwise_cons.2 ⟨List.forall_mem_cons.2 ⟨hwv, fun x hx => ?_⟩, hsorted⟩
      exact h.trans (hPrest x hx) hPw hv (hw x hx) hwv

/-- A value is moved to the front past values that it has to stand in front of. -/
theorem rearranges_insertBack (h : Consistent before P) {v : α} (hv : P v) {back : List α}
    (hback : ∀ w ∈ back, P w) :
    Rearranges before P (back.reverse ++ [v]) (insertBack before v back).reverse := by
  induction back with
  | nil => exact .refl before P [v]
  | cons w rest ih =>
    obtain ⟨hPw, hPrest⟩ := List.forall_mem_cons.1 hback
    rw [insertBack]
    by_cases hlt : before v w = true
    · rw [if_pos hlt, List.reverse_cons, List.reverse_cons, List.append_assoc]
      have hswap : Rearranges before P [w, v] ([v] ++ [w]) :=
        h.rearranges_back hPw (by simpa using hv) (by simpa using hlt)
      refine (hswap.append_left rest.reverse).trans ?_
      rw [← List.append_assoc]
      exact (ih hPrest).append_right [w]
    · rw [if_neg hlt, List.reverse_cons (a := v)]
      exact .refl before P _

/-- Values put into a list that is in order. -/
theorem insertAll_sorts (h : Consistent before P) {sorted vs : List α}
    (hsorted : sorted.Pairwise (Leads before)) (hP : ∀ v ∈ sorted ++ vs, P v) :
    Sorts before P (sorted ++ vs) (insertAll before sorted vs) := by
  -- one insertion after the other, into a list that stands back to front
  suffices hfold : ∀ back : List α, back.Pairwise (fun b a => Leads before a b) →
      (∀ v ∈ back.reverse ++ vs, P v) → Sorts before P (back.reverse ++ vs)
        (vs.foldl (fun back v => insertBack before v back) back).reverse by
    have hback : sorted.reverse.Pairwise fun b a => Leads before a b :=
      List.pairwise_reverse.2 hsorted
    have hresult := hfold sorted.reverse hback (by rwa [List.reverse_reverse])
    rwa [List.reverse_reverse] at hresult
  clear hP hsorted
  induction vs with
  | nil =>
    intro back hback _
    rw [List.append_nil]
    exact .of_pairwise (List.pairwise_reverse.2 hback)
  | cons v rest ih =>
    intro back hback hP
    have hPback : ∀ w ∈ back, P w := fun w hw =>
      hP w (List.mem_append_left _ (List.mem_reverse.2 hw))
    have hv : P v := hP v (List.mem_append_right _ List.mem_cons_self)
    have hstep : Rearranges before P (back.reverse ++ v :: rest)
        ((insertBack before v back).reverse ++ rest) := by
      rw [List.append_cons]
      exact (rearranges_insertBack h hv hPback).append_right rest
    exact .of_rearranges hstep
      (ih _ (pairwise_insertBack h hv hPback hback) (hstep.forall_mem hP))

/-! ### Four values -/

theorem inOrder_sorts (h : Consistent before P) {a b : α} (ha : P a) (hb : P b) :
    Sorts before P [a, b] [(inOrder before a b).1, (inOrder before a b).2] := by
  unfold inOrder
  by_cases hlt : before b a = true
  · rw [if_pos hlt]
    refine ⟨h.rearranges_swap (l := [a]) (r := [b]) ?_ ?_ ?_, ?_⟩
    · simpa using ha
    · simpa using hb
    · simpa using hlt
    · simpa using h.leads hb ha hlt
  · rw [if_neg hlt]
    refine .of_pairwise ?_
    simpa [Leads] using hlt

/-- Values between one that leads them and one that they lead. -/
theorem Sorts.between (first last : α) {vs ws : List α} (h : Sorts before P vs ws)
    (hfirst : ∀ v ∈ vs, Leads before first v) (hlast : ∀ v ∈ vs, Leads before v last)
    (hends : Leads before first last) :
    Sorts before P (first :: (vs ++ [last])) (first :: (ws ++ [last])) := by
  refine { (h.toRearranges.append_right [last]).cons first with sorted := ?_ }
  refine List.pairwise_cons.2 ⟨fun v hv => ?_, List.pairwise_append.2 ⟨h.sorted, ?_, ?_⟩⟩
  · rcases List.mem_append.1 hv with hv | hv
    · exact hfirst v (h.perm.mem_iff.1 hv)
    · rw [List.mem_singleton.1 hv]
      exact hends
  · exact List.pairwise_singleton _ last
  · intro v hv w hw
    rw [List.mem_singleton.1 hw]
    exact hlast v (h.perm.mem_iff.1 hv)

theorem sortFour_sorts (h : Consistent before P) {a b c d : α}
    (hP : ∀ v ∈ [a, b, c, d], P v) : Sorts before P [a, b, c, d] (sortFour before a b c d) := by
  have hab := inOrder_sorts h (hP a (by simp)) (hP b (by simp))
  have hcd := inOrder_sorts h (hP c (by simp)) (hP d (by simp))
  have hpairs := hab.toRearranges.append hcd.toRearranges
  refine .of_rearranges hpairs ?_
  have hP' := hpairs.forall_mem hP
  simp only [sortFour]
  -- from here on, `a` leads `b` and `c` leads `d`
  clear hP hpairs
  generalize inOrder before a b = p, inOrder before c d = q at hab hcd hP' ⊢
  obtain ⟨a, b⟩ := p
  obtain ⟨c, d⟩ := q
  simp only [List.cons_append, List.nil_append, List.mem_cons, List.not_mem_nil, or_false,
    forall_eq_or_imp, forall_eq] at hP' ⊢
  obtain ⟨ha, hb, hc, hd⟩ := hP'
  have hab : Leads before a b := by simpa using hab.sorted
  have hcd : Leads before c d := by simpa using hcd.sorted
  cases hca : before c a with
  | false =>
    have hac : Leads before a c := hca
    have had : Leads before a d := h.trans ha hc hd hac hcd
    cases hdb : before d b with
    | false =>
      have hbd : Leads before b d := hdb
      refine (inOrder_sorts h hb hc).between a d ?_ ?_ had
      · simp [hab, hac]
      · simp [hbd, hcd]
    | true =>
      -- `b` goes behind `c` and `d`
      have hcb : before c b = true := h.before_of_leads_of_before hc hd hb hcd hdb
      have hswap : Rearranges before P ([b] ++ [c, d]) ([c, d] ++ [b]) :=
        h.rearranges_swap (by simp [hb]) (by simp [hc, hd]) (by simp [hcb, hdb])
      refine ⟨hswap.cons a, ?_⟩
      simp [hab, hac, had, hcd, h.leads hc hb hcb, h.leads hd hb hdb]
  | true =>
    -- `c` goes to the front of `a` and `b`
    have hcb : before c b = true := h.before_of_before_of_leads hc ha hb hca hab
    have hfront : Rearranges before P ([a, b] ++ [c]) ([c] ++ [a, b]) :=
      h.rearranges_swap (by simp [ha, hb]) (by simp [hc]) (by simp [hca, hcb])
    have hca : Leads before c a := h.leads hc ha hca
    cases hdb : before d b with
    | false =>
      have hbd : Leads before b d := hdb
      have had : Leads before a d := h.trans ha hb hd hab hbd
      refine ⟨hfront.append_right [d], ?_⟩
      simp [hca, h.leads hc hb hcb, hcd, hab, had, hbd]
    | true =>
      have hswap : Rearranges before P ([b] ++ [d]) ([d] ++ [b]) :=
        h.rearranges_swap (by simp [hb]) (by simp [hd]) (by simp [hdb])
      have hmoved : Rearranges before P [a, b, c, d] [c, a, d, b] :=
        (hfront.append_right [d]).trans (hswap.append_left [c, a])
      refine .of_rearranges hmoved ?_
      refine (inOrder_sorts h ha hd).between c b ?_ ?_ (h.leads hc hb hcb)
      · simp [hca, hcd]
      · simp [hab, h.leads hd hb hdb]

end Liquid.Sort
