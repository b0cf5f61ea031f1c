/-!
# Stable rearrangements

What it means that a list is put in order, and that values which no order sets apart keep their
places. The order is given as for sorting, by `before`: whether its first argument has to stand in
front of its second.

- `Sort.Leads`: two values may stand in this order.
- `Sort.Consistent`: on some values, the order does not contradict itself. It is one of ranks then:
  to lead is transitive, and of two values one leads the other.
- `Sort.alike`: neither of two values has to stand in front of the other.
- `Sort.Rearranges`: a list in another order, in which values that are alike have kept theirs. It is
  enough to know when neighbouring stretches may change places: `Consistent.rearranges_swap`.
- `Sort.Sorts`: such a rearrangement, with the values in order. There is only one: `Sorts.unique`.

Values outside of `P` may contradict each other: an order of all values of a list need not be one of
all values of its type.
-/

namespace Liquid.Sort

variable {α : Type}

/-- The first value may stand in front of the second: the second need not stand in front of it. -/
def Leads (before : α → α → Bool) (a b : α) : Prop := before b a = false

/-- Of the two values neither has to stand in front of the other. -/
def alike (before : α → α → Bool) (a b : α) : Bool := !before a b && !before b a

/-- Among the values with `P` the order does not contradict itself. -/
structure Consistent (before : α → α → Bool) (P : α → Prop) : Prop where
  /-- A value that has to stand in front of another may do so. -/
  leads {a b : α} : P a → P b → before a b = true → Leads before a b
  /-- What may stand in front of a value may stand in front of all that it leads. -/
  trans {a b c : α} : P a → P b → P c → Leads before a b → Leads before b c → Leads before a c

variable {before : α → α → Bool} {P : α → Prop}

theorem alike_iff {a b : α} : alike before a b = true ↔ Leads before a b ∧ Leads before b a := by
  rw [alike, Bool.and_eq_true, Bool.not_eq_true', Bool.not_eq_true', and_comm]
  rfl

theorem alike_flip (a b : α) : alike (fun a b => before b a) a b = alike before a b :=
  Bool.and_comm _ _

namespace Consistent

theorem leads_self (h : Consistent before P) {a : α} (ha : P a) : Leads before a a := by
  show before a a = false
  by_cases hlt : before a a = true
  · exact h.leads ha ha hlt
  · exact Bool.eq_false_iff.2 hlt

theorem before_of_before_of_leads (h : Consistent before P) {a b c : α} (ha : P a) (hb : P b)
    (hc : P c) (hab : before a b = true) (hbc : Leads before b c) : before a c = true := by
  by_cases hac : before a c = true
  · exact hac
  · -- else `b` leads `c`, and `c` leads `a`
    have hba : Leads before b a := h.trans hb hc ha hbc (Bool.eq_false_iff.2 hac)
    cases hab.symm.trans hba

theorem before_of_leads_of_before (h : Consistent before P) {a b c : α} (ha : P a) (hb : P b)
    (hc : P c) (hab : Leads before a b) (hbc : before b c = true) : before a c = true := by
  by_cases hac : before a c = true
  · exact hac
  · -- else `c` leads `a`, and `a` leads `b`
    have hcb : Leads before c b := h.trans hc ha hb (Bool.eq_false_iff.2 hac) hab
    cases hbc.symm.trans hcb

theorem before_trans (h : Consistent before P) {a b c : α} (ha : P a) (hb : P b) (hc : P c)
    (hab : before a b = true) (hbc : before b c = true) : before a c = true :=
  h.before_of_before_of_leads ha hb hc hab (h.leads hb hc hbc)

/-- The opposite order is consistent as well. -/
theorem flip (h : Consistent before P) : Consistent (fun a b => before b a) P where
  leads ha hb hlt := h.leads hb ha hlt
  trans ha hb hc hab hbc := h.trans hc hb ha hbc hab

/-- Values that are alike to one value do not have to stand in front of each other. -/
theorem leads_of_alike (h : Consistent before P) {x a b : α} (hx : P x) (ha : P a) (hb : P b)
    (hxa : alike before x a = true) (hxb : alike before x b = true) : Leads before a b :=
  h.trans ha hx hb (alike_iff.1 hxa).2 (alike_iff.1 hxb).1

/-- Values are ordered consistently by their keys. -/
theorem comap {β : Type} (key : β → α) (h : Consistent before P) :
    Consistent (fun a b => before (key a) (key b)) (fun a => P (key a)) where
  leads ha hb hlt := h.leads ha hb hlt
  trans ha hb hc hab hbc := h.trans ha hb hc hab hbc

end Consistent

/-! ### Rearranging -/

/-- The values `vs` in another order `ws`. Those that are alike to any one value are the same, in
the same order. -/
structure Rearranges (before : α → α → Bool) (P : α → Prop) (vs ws : List α) : Prop where
  /-- Nothing is lost or added. -/
  perm : ws.Perm vs
  /-- Values that are alike keep their order. -/
  filter_eq {x : α} : P x → ws.filter (alike before x) = vs.filter (alike before x)

namespace Rearranges

variable {vs ws xs vs' ws' : List α}

theorem refl (before : α → α → Bool) (P : α → Prop) (vs : List α) : Rearranges before P vs vs :=
  ⟨.refl vs, fun _ => rfl⟩

theorem of_eq (h : vs = ws) : Rearranges before P vs ws := h ▸ .refl before P vs

theorem trans (h : Rearranges before P vs ws) (h' : Rearranges before P ws xs) :
    Rearranges before P vs xs :=
  ⟨h'.perm.trans h.perm, fun hx => (h'.filter_eq hx).trans (h.filter_eq hx)⟩

theorem append (h : Rearranges before P vs ws) (h' : Rearranges before P vs' ws') :
    Rearranges before P (vs ++ vs') (ws ++ ws') :=
  ⟨h.perm.append h'.perm, fun hx => by
    rw [List.filter_append, List.filter_append, h.filter_eq hx, h'.filter_eq hx]⟩

theorem append_left (vs : List α) (h : Rearranges before P vs' ws') :
    Rearranges before P (vs ++ vs') (vs ++ ws') :=
  (refl before P vs).append h

theorem append_right (h : Rearranges before P vs ws) (vs' : List α) :
    Rearranges before P (vs ++ vs') (ws ++ vs') :=
  h.append (refl before P vs')

theorem cons (v : α) (h : Rearranges before P vs ws) : Rearranges before P (v :: vs) (v :: ws) :=
  h.append_left [v]

/-- What holds of all values still does. -/
theorem forall_mem (h : Rearranges before P vs ws) (hvs : ∀ v ∈ vs, P v) : ∀ w ∈ ws, P w :=
  fun w hw => hvs w (h.perm.mem_iff.1 hw)

/-- Read from the back, a list is rearranged in the opposite order. -/
theorem reverse (h : Rearranges (fun a b => before b a) P vs ws) :
    Rearranges before P vs.reverse ws.reverse where
  perm := (List.reverse_perm ws).trans (h.perm.trans (List.reverse_perm vs).symm)
  filter_eq {x} hx := by
    have hfilter := h.filter_eq hx
    have hflip : alike (fun a b => before b a) x = alike before x := funext (alike_flip x)
    rw [hflip] at hfilter
    rw [List.filter_reverse, List.filter_reverse, hfilter]

end Rearranges

/-- Two stretches change places if every value of the second has to stand in front of every value
of the first. -/
theorem Consistent.rearranges_swap (h : Consistent before P) {l r : List α} (hl : ∀ a ∈ l, P a)
    (hr : ∀ b ∈ r, P b) (hlt : ∀ b ∈ r, ∀ a ∈ l, before b a = true) :
    Rearranges before P (l ++ r) (r ++ l) where
  perm := List.perm_append_comm
  filter_eq {x} hx := by
    rw [List.filter_append, List.filter_append]
    -- values alike to `x` stand in one of the stretches only
    by_cases hmem : ∃ a ∈ l, alike before x a = true
    · obtain ⟨a, ha, hxa⟩ := hmem
      have hnone : r.filter (alike before x) = [] := by
        refine List.filter_eq_nil_iff.2 fun b hb hxb => ?_
        have hleads := h.leads_of_alike hx (hl a ha) (hr b hb) hxa hxb
        cases (hlt b hb a ha).symm.trans hleads
      rw [hnone, List.append_nil, List.nil_append]
    · have hnone : l.filter (alike before x) = [] :=
        List.filter_eq_nil_iff.2 fun a ha hxa => hmem ⟨a, ha, hxa⟩
      rw [hnone, List.append_nil, List.nil_append]

/-- A value goes to the front of a list if it has to stand in front of all its values. -/
theorem Consistent.rearranges_front (h : Consistent before P) {l r : List α} {b : α}
    (hl : ∀ a ∈ l, P a) (hb : P b) (hlt : ∀ a ∈ l, before b a = true) :
    Rearranges before P (l ++ b :: r) (b :: (l ++ r)) := by
  have hswap : Rearranges before P (l ++ [b]) ([b] ++ l) :=
    h.rearranges_swap hl (by simpa using hb) (by simpa using hlt)
  rw [List.append_cons]
  exact hswap.append_right r

/-- A value goes to the back of a list if all its values have to stand in front of it. -/
theorem Consistent.rearranges_back (h : Consistent before P) {l : List α} {a : α} (ha : P a)
    (hl : ∀ b ∈ l, P b) (hlt : ∀ b ∈ l, before b a = true) :
    Rearranges before P (a :: l) (l ++ [a]) :=
  h.rearranges_swap (l := [a]) (by simpa using ha) hl (by simpa using hlt)

/-- A list in which every value has to stand behind all that follow it, from the back. -/
theorem Consistent.rearranges_reverse (h : Consistent before P) {vs : List α}
    (hvs : ∀ v ∈ vs, P v) (hdown : vs.Pairwise fun a b => before b a = true) :
    Rearranges before P vs vs.reverse := by
  induction vs with
  | nil => exact .refl before P []
  | cons v rest ih =>
    obtain ⟨hv, hrest⟩ := List.pairwise_cons.1 hdown
    obtain ⟨hPv, hPrest⟩ := List.forall_mem_cons.1 hvs
    rw [List.reverse_cons]
    exact (h.rearranges_back hPv hPrest hv).trans ((ih hPrest hrest).append_right [v])

/-! ### Sorting -/

/-- The values `vs` in order: none has to stand in front of one that stands in front of it, and
values that are alike have kept their order. -/
structure Sorts (before : α → α → Bool) (P : α → Prop) (vs ws : List α) : Prop extends
    Rearranges before P vs ws where
  /-- The values are in order. -/
  sorted : ws.Pairwise (Leads before)

theorem Sorts.of_rearranges {vs ws xs : List α} (h : Rearranges before P vs ws)
    (h' : Sorts before P ws xs) : Sorts before P vs xs :=
  { h.trans h'.toRearranges with sorted := h'.sorted }

/-- A list that is in order is sorted as it stands. -/
theorem Sorts.of_pairwise {vs : List α} (h : vs.Pairwise (Leads before)) :
    Sorts before P vs vs :=
  { Rearranges.refl before P vs with sorted := h }

theorem sorts_nil (before : α → α → Bool) (P : α → Prop) : Sorts before P [] [] :=
  .of_pairwise .nil

/-- Read from the back, a list that is sorted in the opposite order is sorted. -/
theorem Sorts.reverse {vs ws : List α} (h : Sorts (fun a b => before b a) P vs ws) :
    Sorts before P vs.reverse ws.reverse :=
  { h.toRearranges.reverse with sorted := List.pairwise_reverse.2 h.sorted }

/-- Values that are alike keep their order, so a list can be put in order in one way only. -/
theorem Sorts.unique (h : Consistent before P) {vs ws xs : List α} (hP : ∀ v ∈ vs, P v)
    (hws : Sorts before P vs ws) (hxs : Sorts before P vs xs) : ws = xs := by
  have hfilter : ∀ {x}, P x → ws.filter (alike before x) = xs.filter (alike before x) :=
    fun hx => (hws.filter_eq hx).trans (hxs.filter_eq hx).symm
  have hperm := hws.perm.trans hxs.perm.symm
  have hPws := hws.forall_mem hP
  have hsorted := hws.sorted
  have hsorted' := hxs.sorted
  clear hws hxs hP
  induction ws generalizing xs with
  | nil => exact hperm.nil_eq
  | cons a ws ih =>
    cases xs with
    | nil => exact absurd hperm.length_eq (by simp)
    | cons b xs =>
      obtain ⟨ha, hPrest⟩ := List.forall_mem_cons.1 hPws
      obtain ⟨hleads, hrest⟩ := List.pairwise_cons.1 hsorted
      obtain ⟨hleads', hrest'⟩ := List.pairwise_cons.1 hsorted'
      have hmem : b ∈ a :: ws := hperm.mem_iff.2 List.mem_cons_self
      have hmem' : a ∈ b :: xs := hperm.mem_iff.1 List.mem_cons_self
      have hb : P b := hPws b hmem
      -- each of the heads leads the other list, and with it the other head
      have hab : Leads before a b := by
        rcases List.mem_cons.1 hmem with heq | hmem
        · exact heq ▸ h.leads_self hb
        · exact hleads b hmem
      have hba : Leads before b a := by
        rcases List.mem_cons.1 hmem' with heq | hmem'
        · exact heq ▸ h.leads_self ha
        · exact hleads' a hmem'
      have hself : alike before a a = true := alike_iff.2 ⟨h.leads_self ha, h.leads_self ha⟩
      have hheads := hfilter ha
      rw [List.filter_cons_of_pos hself, List.filter_cons_of_pos (alike_iff.2 ⟨hab, hba⟩)] at hheads
      obtain ⟨rfl, -⟩ := List.cons.inj hheads
      refine congrArg (List.cons a) (ih (fun {x} hx => ?_) hperm.cons_inv hPrest hrest hrest')
      have hboth := hfilter hx
      by_cases hxa : alike before x a = true
      · rw [List.filter_cons_of_pos hxa, List.filter_cons_of_pos hxa] at hboth
        exact (List.cons.inj hboth).2
      · rwa [List.filter_cons_of_neg hxa, List.filter_cons_of_neg hxa] at hboth

/-- On all lists of values with `P`, a way of sorting has a result, which is sorted. -/
def SortsAll (before : α → α → Bool) (P : α → Prop) (sort? : List α → Option (List α)) : Prop :=
  ∀ vs : List α, (∀ v ∈ vs, P v) → ∃ ws, sort? vs = some ws ∧ Sorts before P vs ws

end Liquid.Sort
