import Liquid.Sort.Merge
import Liquid.Proofs.Sort.Order

/-!
# Merging puts in order

Where the order does not contradict itself, two lists that are in order are merged into one that is.

- `Sort.merge_sorts`: from the front, or from the back.
- `Sort.mergeEnds?_sorts`: from both ends at once. The two ends cannot meet in one list without
  leaving a value of the other list between them, and this value would have to stand on both sides
  of what both ends have taken.
-/

namespace Liquid.Sort

variable {α : Type} {before : α → α → Bool} {P : α → Prop}

theorem leads_of_mem_cons (h : Consistent before P) {a b : α} {rest : List α} (ha : P a)
    (hP : ∀ v ∈ b :: rest, P v) (hsorted : (b :: rest).Pairwise (Leads before))
    (hab : Leads before a b) : ∀ v ∈ b :: rest, Leads before a v := by
  obtain ⟨hb, hPrest⟩ := List.forall_mem_cons.1 hP
  refine List.forall_mem_cons.2 ⟨hab, fun v hv => ?_⟩
  exact h.trans ha hb (hPrest v hv) hab ((List.pairwise_cons.1 hsorted).1 v hv)

theorem before_of_mem_cons (h : Consistent before P) {a b : α} {rest : List α} (ha : P a)
    (hP : ∀ v ∈ b :: rest, P v) (hsorted : (b :: rest).Pairwise (Leads before))
    (hab : before a b = true) : ∀ v ∈ b :: rest, before a v = true := by
  obtain ⟨hb, hPrest⟩ := List.forall_mem_cons.1 hP
  refine List.forall_mem_cons.2 ⟨hab, fun v hv => ?_⟩
  exact h.before_of_before_of_leads ha hb (hPrest v hv) hab ((List.pairwise_cons.1 hsorted).1 v hv)

theorem mergeFront_sorts (h : Consistent before P) {l r : List α} (hl : l.Pairwise (Leads before))
    (hr : r.Pairwise (Leads before)) (hPl : ∀ v ∈ l, P v) (hPr : ∀ v ∈ r, P v) :
    Sorts before P (l ++ r) (l.merge r fun a b => !before b a) := by
  induction l generalizing r with
  | nil =>
    rw [List.nil_merge]
    exact .of_pairwise hr
  | cons a l ihl =>
    induction r with
    | nil =>
      rw [List.merge_right, List.append_nil]
      exact .of_pairwise hl
    | cons b r ihr =>
      have ha : P a := hPl a List.mem_cons_self
      have hb : P b := hPr b List.mem_cons_self
      rw [List.cons_merge_cons]
      by_cases hlt : before b a = true
      · rw [hlt]
        -- `b` has to stand in front of all of the first list
        have hbl := before_of_mem_cons h hb hPl hl hlt
        have hrest := ihr (List.pairwise_cons.1 hr).2
          fun v hv => hPr v (List.mem_cons_of_mem b hv)
        refine { ((h.rearranges_front hPl hb hbl).trans (hrest.toRearranges.cons b)) with
          sorted := ?_ }
        refine List.pairwise_cons.2 ⟨fun v hv => ?_, hrest.sorted⟩
        rcases List.mem_append.1 (hrest.perm.mem_iff.1 hv) with hv | hv
        · exact h.leads hb (hPl v hv) (hbl v hv)
        · exact (List.pairwise_cons.1 hr).1 v hv
      · have hab : Leads before a b := Bool.eq_false_iff.2 hlt
        rw [show before b a = false from hab]
        have hrest := ihl (List.pairwise_cons.1 hl).2 hr
          (fun v hv => hPl v (List.mem_cons_of_mem a hv)) hPr
        refine { hrest.toRearranges.cons a with sorted := ?_ }
        refine List.pairwise_cons.2 ⟨fun v hv => ?_, hrest.sorted⟩
        rcases List.mem_append.1 (hrest.perm.mem_iff.1 hv) with hv | hv
        · exact (List.pairwise_cons.1 hl).1 v hv
        · exact leads_of_mem_cons h ha hPr hr hab v hv

/-- Merging two lists that are in order. -/
theorem merge_sorts (h : Consistent before P) {l r : List α} (hl : l.Pairwise (Leads before))
    (hr : r.Pairwise (Leads before)) (hPl : ∀ v ∈ l, P v) (hPr : ∀ v ∈ r, P v) :
    Sorts before P (l ++ r) (merge before l r) := by
  unfold merge
  by_cases hlength : l.length ≤ r.length
  · rw [if_pos hlength]
    exact mergeFront_sorts h hl hr hPl hPr
  · rw [if_neg hlength]
    -- from the back, the second list comes first, and the order is the opposite one
    have hback := mergeFront_sorts h.flip (List.pairwise_reverse.2 hr) (List.pairwise_reverse.2 hl)
      (fun v hv => hPr v (List.mem_reverse.1 hv)) fun v hv => hPl v (List.mem_reverse.1 hv)
    have hfront := hback.reverse
    rwa [List.reverse_append, List.reverse_reverse, List.reverse_reverse] at hfront

/-! ### Merging from both ends -/

/-- What has been taken from the fronts of two lists `l` and `r`: `taken`, which are `a` and `b` in
order, and what is left of the lists. -/
structure TakenFirst (before : α → α → Bool) (P : α → Prop) (l r a b taken left right : List α) :
    Prop where
  /-- The first values of the first list are taken. -/
  left_eq : l = a ++ left
  /-- The first values of the second list are taken. -/
  right_eq : r = b ++ right
  /-- They are put in order. -/
  sorts : Sorts before P (a ++ b) taken
  /-- What is taken of the first list leads what is left of the second. -/
  leads : ∀ v ∈ a, ∀ w ∈ right, Leads before v w
  /-- What is taken of the second list has to stand in front of what is left of the first. -/
  before : ∀ w ∈ b, ∀ v ∈ left, before w v = true

namespace TakenFirst

variable {l r a b taken left right : List α} {v w : α}

/-- Before the first values are taken, the first list had one more, which leads the second. -/
theorem cons_left (h : TakenFirst before P l r a b taken left right)
    (hvl : ∀ u ∈ l, Leads before v u) (hvr : ∀ u ∈ r, Leads before v u) :
    TakenFirst before P (v :: l) r (v :: a) b (v :: taken) left right where
  left_eq := by
    rw [h.left_eq]
    rfl
  right_eq := h.right_eq
  sorts := by
    rw [h.left_eq] at hvl
    rw [h.right_eq] at hvr
    refine { h.sorts.toRearranges.cons v with sorted := ?_ }
    refine List.pairwise_cons.2 ⟨fun u hu => ?_, h.sorts.sorted⟩
    rcases List.mem_append.1 (h.sorts.perm.mem_iff.1 hu) with hu | hu
    · exact hvl u (List.mem_append_left _ hu)
    · exact hvr u (List.mem_append_left _ hu)
  leads := by
    rw [h.right_eq] at hvr
    exact List.forall_mem_cons.2 ⟨fun x hx => hvr x (List.mem_append_right _ hx), h.leads⟩
  before := h.before

/-- Before the first values are taken, the second list had one more, which has to stand in front of
the first. -/
theorem cons_right (hconsistent : Consistent before P)
    (h : TakenFirst before P l r a b taken left right) (hw : P w) (hPl : ∀ u ∈ l, P u)
    (hwl : ∀ u ∈ l, before w u = true) (hwr : ∀ u ∈ r, Leads before w u) :
    TakenFirst before P l (w :: r) a (w :: b) (w :: taken) left right where
  left_eq := h.left_eq
  right_eq := by
    rw [h.right_eq]
    rfl
  sorts := by
    rw [h.left_eq] at hwl hPl
    rw [h.right_eq] at hwr
    have hfront : Rearranges before P (a ++ w :: b) (w :: (a ++ b)) :=
      hconsistent.rearranges_front (fun u hu => hPl u (List.mem_append_left _ hu)) hw
        fun u hu => hwl u (List.mem_append_left _ hu)
    refine { hfront.trans (h.sorts.toRearranges.cons w) with sorted := ?_ }
    refine List.pairwise_cons.2 ⟨fun u hu => ?_, h.sorts.sorted⟩
    rcases List.mem_append.1 (h.sorts.perm.mem_iff.1 hu) with hu | hu
    · exact hconsistent.leads hw (hPl u (List.mem_append_left _ hu))
        (hwl u (List.mem_append_left _ hu))
    · exact hwr u (List.mem_append_left _ hu)
  leads := h.leads
  before := by
    rw [h.left_eq] at hwl
    exact List.forall_mem_cons.2 ⟨fun x hx => hwl x (List.mem_append_right _ hx), h.before⟩

end TakenFirst

/-- Of two lists that are long enough, just so many values are taken as are asked for. -/
theorem mergeFirst_spec (h : Consistent before P) {n : Nat} {l r : List α}
    (hl : l.Pairwise (Leads before)) (hr : r.Pairwise (Leads before)) (hPl : ∀ v ∈ l, P v)
    (hPr : ∀ v ∈ r, P v) (hnl : n ≤ l.length) (hnr : n ≤ r.length) :
    ∃ a b, a.length + b.length = n ∧ TakenFirst before P l r a b (mergeFirst before n l r).1
      (mergeFirst before n l r).2.1 (mergeFirst before n l r).2.2 := by
  induction n generalizing l r with
  | zero =>
    have hnone : mergeFirst before 0 l r = ([], l, r) := by rw [mergeFirst.eq_def]
    rw [hnone]
    exact ⟨[], [], rfl, rfl, rfl, sorts_nil before P, by simp, by simp⟩
  | succ n ih =>
    cases l with
    | nil => cases hnl
    | cons v l =>
      cases r with
      | nil => cases hnr
      | cons w r =>
        have hv : P v := hPl v List.mem_cons_self
        have hw : P w := hPr w List.mem_cons_self
        rw [mergeFirst]
        by_cases hlt : before w v = true
        · rw [if_pos hlt]
          obtain ⟨a, b, hlength, htaken⟩ := ih hl (List.pairwise_cons.1 hr).2 hPl
            (fun u hu => hPr u (List.mem_cons_of_mem w hu)) (by omega)
            (Nat.le_of_succ_le_succ hnr)
          exact ⟨a, w :: b, by rw [List.length_cons]; omega, htaken.cons_right h hw hPl
            (before_of_mem_cons h hw hPl hl hlt) (List.pairwise_cons.1 hr).1⟩
        · rw [if_neg hlt]
          obtain ⟨a, b, hlength, htaken⟩ := ih (List.pairwise_cons.1 hl).2 hr
            (fun u hu => hPl u (List.mem_cons_of_mem v hu)) hPr
            (Nat.le_of_succ_le_succ hnl) (by omega)
          exact ⟨v :: a, b, by rw [List.length_cons]; omega, htaken.cons_left
            (List.pairwise_cons.1 hl).1
            (leads_of_mem_cons h hv hPr hr (Bool.eq_false_iff.2 hlt))⟩

/-- A beginning of a list that is longer than what is in front of an end of it shares a value with
that end. -/
theorem exists_mem_of_append_eq {a left left' d : List α} (h : a ++ left = left' ++ d)
    (hlt : left'.length < a.length) : ∃ x, x ∈ a ∧ x ∈ d := by
  rcases List.append_eq_append_iff.1 h with ⟨shared, rfl, -⟩ | ⟨shared, rfl, rfl⟩
  · rw [List.length_append] at hlt
    omega
  · cases shared with
    | nil => simp at hlt
    | cons x rest => exact ⟨x, by simp, by simp⟩

/-- The ends of two lists put in order, with what is between them. -/
theorem sorts_of_ends (h : Consistent before P) {a m d b n e front back : List α}
    (hl : (a ++ m ++ d).Pairwise (Leads before)) (hr : (b ++ n ++ e).Pairwise (Leads before))
    (hPl : ∀ v ∈ a ++ m ++ d, P v) (hPr : ∀ v ∈ b ++ n ++ e, P v)
    (hfront : Sorts before P (a ++ b) front) (hback : Sorts before P (d ++ e) back)
    (hmiddle : (m ++ n).length ≤ 1)
    (ha : ∀ v ∈ a, ∀ w ∈ n ++ e, Leads before v w)
    (hb : ∀ w ∈ b, ∀ v ∈ m ++ d, before w v = true)
    (hd : ∀ v ∈ d, ∀ w ∈ b ++ n, before w v = true)
    (he : ∀ w ∈ e, ∀ v ∈ a ++ m, Leads before v w) :
    Sorts before P (a ++ m ++ d ++ (b ++ n ++ e)) (front ++ (m ++ n) ++ back) := by
  have hPm : ∀ v ∈ m, P v := fun v hv => hPl v (by simp [hv])
  have hPd : ∀ v ∈ d, P v := fun v hv => hPl v (by simp [hv])
  have hPb : ∀ v ∈ b, P v := fun v hv => hPr v (by simp [hv])
  have hPn : ∀ v ∈ n, P v := fun v hv => hPr v (by simp [hv])
  -- `b` goes in front of `m` and `d`, and `n` in front of `d`
  have hmoveb : Rearranges before P (m ++ d ++ b) (b ++ (m ++ d)) :=
    h.rearranges_swap (List.forall_mem_append.2 ⟨hPm, hPd⟩) hPb hb
  have hmoven : Rearranges before P (d ++ n) (n ++ d) :=
    h.rearranges_swap hPd hPn fun w hw v hv => hd v hv w (List.mem_append_right b hw)
  have hmoved : Rearranges before P (a ++ m ++ d ++ (b ++ n ++ e))
      (a ++ b ++ (m ++ n) ++ (d ++ e)) := by
    have hfirst := (hmoveb.append_left a).append_right (n ++ e)
    have hsecond := (hmoven.append_left (a ++ b ++ m)).append_right e
    simp only [List.append_assoc] at hfirst hsecond ⊢
    exact hfirst.trans hsecond
  refine .of_rearranges hmoved
    { (hfront.toRearranges.append_right (m ++ n)).append hback.toRearranges with sorted := ?_ }
  obtain ⟨ham, -, hamd⟩ := List.pairwise_append.1 hl
  obtain ⟨hbn, -, hbne⟩ := List.pairwise_append.1 hr
  have hshort : (m ++ n).Pairwise (Leads before) := by
    generalize m ++ n = middle at hmiddle
    match middle with
    | [] => exact .nil
    | [v] => exact List.pairwise_singleton _ v
    | _ :: _ :: _ => simp at hmiddle
  refine List.pairwise_append.2 ⟨List.pairwise_append.2 ⟨hfront.sorted, hshort, ?_⟩, hback.sorted,
    ?_⟩
  · intro u hu w hw
    rcases List.mem_append.1 (hfront.perm.mem_iff.1 hu) with hu | hu
    · rcases List.mem_append.1 hw with hw | hw
      · exact (List.pairwise_append.1 ham).2.2 u hu w hw
      · exact ha u hu w (List.mem_append_left e hw)
    · rcases List.mem_append.1 hw with hw | hw
      · exact h.leads (hPb u hu) (hPm w hw) (hb u hu w (List.mem_append_left d hw))
      · exact (List.pairwise_append.1 hbn).2.2 u hu w hw
  · intro u hu w hw
    have hu : u ∈ a ++ m ∨ u ∈ b ++ n := by
      simp only [List.mem_append, hfront.perm.mem_iff] at hu ⊢
      rcases hu with (hu | hu) | hu | hu <;> simp [hu]
    rcases List.mem_append.1 (hback.perm.mem_iff.1 hw) with hw | hw
    · rcases hu with hu | hu
      · exact hamd u hu w hw
      · exact h.leads (hPr u (List.mem_append_left e hu)) (hPd w hw) (hd w hw u hu)
    · rcases hu with hu | hu
      · exact he w hw u hu
      · exact hbne u hu w hw

section

variable {l r a b d e front back l₁ r₁ l₂ r₂ : List α}

/-- Both ends together take no more of either list than it has: a value that both have taken would
have to stand on both sides of one of the other list that neither has. -/
theorem ends_apart (hlr : l.length ≤ r.length) (hab : a.length + b.length = l.length)
    (hed : e.length + d.length = l.length) (hfront : TakenFirst before P l r a b front l₁ r₁)
    (hback : TakenFirst (fun a b => before b a) P r.reverse l.reverse e d back r₂ l₂) :
    l.length ≤ l₁.length + l₂.length ∧ r.length ≤ r₁.length + r₂.length := by
  have hlend : l = l₂.reverse ++ d.reverse :=
    (List.reverse_eq_iff.1 hback.right_eq).trans List.reverse_append
  have hrend : r = r₂.reverse ++ e.reverse :=
    (List.reverse_eq_iff.1 hback.left_eq).trans List.reverse_append
  have hlength := congrArg List.length hfront.left_eq
  have hlength' := congrArg List.length hfront.right_eq
  have hlength₂ := congrArg List.length hlend
  have hlength₂' := congrArg List.length hrend
  simp only [List.length_append, List.length_reverse] at hlength hlength' hlength₂ hlength₂'
  constructor
  · by_cases hlt : l₂.length < a.length
    · obtain ⟨v, hva, hvd⟩ := exists_mem_of_append_eq (hfront.left_eq.symm.trans hlend)
        (by rwa [List.length_reverse])
      obtain ⟨w, hwe, hwr⟩ := exists_mem_of_append_eq (hrend.symm.trans hfront.right_eq)
        (by rw [List.length_reverse]; omega)
      cases (hback.before v (List.mem_reverse.1 hvd) w (List.mem_reverse.1 hwe)).symm.trans
        (hfront.leads v hva w hwr)
    · omega
  · by_cases hlt : r₂.length < b.length
    · obtain ⟨w, hwb, hwe⟩ := exists_mem_of_append_eq (hfront.right_eq.symm.trans hrend)
        (by rwa [List.length_reverse])
      obtain ⟨v, hvd, hvl⟩ := exists_mem_of_append_eq (hlend.symm.trans hfront.left_eq)
        (by rw [List.length_reverse]; omega)
      cases (hfront.before w hwb v hvl).symm.trans
        (hback.leads w (List.mem_reverse.1 hwe) v (List.mem_reverse.1 hvd))
    · omega

end

/-- A list with its two ends taken apart. -/
theorem exists_middle {l a left left' d : List α} (h : l = a ++ left) (h' : l = left' ++ d)
    (hlength : l.length ≤ left.length + left'.length) :
    ∃ m, left.take (left.length + left'.length - l.length) = m ∧ a ++ m ++ d = l ∧ left = m ++ d ∧
      left' = a ++ m := by
  have hm := append_take_append h h' hlength
  generalize left.take (left.length + left'.length - l.length) = m at hm
  have hstart : a ++ left = a ++ (m ++ d) := by
    rw [← h, ← hm, List.append_assoc]
  exact ⟨m, rfl, hm, List.append_cancel_left hstart,
    List.append_cancel_right (h'.symm.trans hm.symm)⟩

/-- Merging from both ends, where the second list is as long as the first or longer by one. -/
theorem mergeEnds?_sorts (h : Consistent before P) {l r : List α}
    (hl : l.Pairwise (Leads before)) (hr : r.Pairwise (Leads before)) (hPl : ∀ v ∈ l, P v)
    (hPr : ∀ v ∈ r, P v) (hlr : l.length ≤ r.length) (hrl : r.length ≤ l.length + 1) :
    ∃ merged, mergeEnds? before l r = some merged ∧ Sorts before P (l ++ r) merged := by
  obtain ⟨a, b, hab, hfront⟩ := mergeFirst_spec h hl hr hPl hPr (Nat.le_refl _) hlr
  obtain ⟨e, d, hed, hback⟩ := mergeFirst_spec (n := l.length) h.flip
    (List.pairwise_reverse.2 hr) (List.pairwise_reverse.2 hl)
    (fun v hv => hPr v (List.mem_reverse.1 hv)) (fun v hv => hPl v (List.mem_reverse.1 hv))
    (by rwa [List.length_reverse]) (Nat.le_of_eq List.length_reverse.symm)
  rw [mergeEnds?]
  generalize mergeFirst before l.length l r = first at hfront ⊢
  generalize mergeFirst (fun b a => before a b) l.length r.reverse l.reverse = last at hback ⊢
  obtain ⟨front, l₁, r₁⟩ := first
  obtain ⟨back, r₂, l₂⟩ := last
  dsimp only at hfront hback ⊢
  obtain ⟨hapart, hapart'⟩ := ends_apart hlr hab hed hfront hback
  rw [if_neg (not_or.2 ⟨Nat.not_lt.2 hapart, Nat.not_lt.2 hapart'⟩)]
  refine ⟨_, rfl, ?_⟩
  -- the two lists, with what is left between their ends
  have hlend : l = l₂.reverse ++ d.reverse :=
    (List.reverse_eq_iff.1 hback.right_eq).trans List.reverse_append
  have hrend : r = r₂.reverse ++ e.reverse :=
    (List.reverse_eq_iff.1 hback.left_eq).trans List.reverse_append
  obtain ⟨m, hmiddle, hm, hl₁, hl₂⟩ :=
    exists_middle hfront.left_eq hlend (by rwa [List.length_reverse])
  obtain ⟨n, hmiddle', hn, hr₁, hr₂⟩ :=
    exists_middle hfront.right_eq hrend (by rwa [List.length_reverse])
  rw [List.length_reverse] at hmiddle hmiddle'
  rw [hmiddle, hmiddle']
  have hback' := hback.sorts.reverse
  rw [List.reverse_append] at hback'
  have hlength := congrArg List.length hm
  have hlength' := congrArg List.length hn
  simp only [List.length_append, List.length_reverse] at hlength hlength'
  rw [← hm] at hl hPl
  rw [← hn] at hr hPr
  rw [← hm, ← hn]
  refine sorts_of_ends h hl hr hPl hPr hfront.sorts hback' ?_ ?_ ?_ ?_ ?_
  · rw [List.length_append]
    omega
  · exact hr₁ ▸ hfront.leads
  · exact hl₁ ▸ hfront.before
  · intro v hv w hw
    rw [← hr₂] at hw
    exact hback.before v (List.mem_reverse.1 hv) w (List.mem_reverse.1 hw)
  · intro w hw v hv
    rw [← hl₂] at hv
    exact hback.leads w (List.mem_reverse.1 hw) v (List.mem_reverse.1 hv)

end Liquid.Sort
