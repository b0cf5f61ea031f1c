import Liquid.Proofs.Filter.Sort
import Liquid.Proofs.Filter.Standard

/-!
# Sorting by strings

Where every key is a string or missing, the `sort` filter puts the items with a key in front, in the
order of their keys, and those without one behind them. Items of one key keep their order, and
sorting a second time changes nothing.

- `Value.leads_comesBefore_text`: which of two keys may stand in front of the other.
- `Sort.exists_append_of_pairwise`: a list in which all that passes a test stands in front.
- `Filter.filter_sorted`: items of one key keep their order.
- `Filter.sort_strings`: the filter.
-/

namespace Liquid

/-! ### String keys -/

namespace Value

theorem eq_string_of_asString? {v : Value} {s : String} (h : v.asString? = some s) :
    v = string s := by
  cases v <;> cases h
  rfl

theorem stringOrder_ne_gt_iff (s t : String) : stringOrder s t ≠ .gt ↔ s ≤ t := by
  rw [← String.not_lt, ne_eq, ← Ordering.swap_eq_lt, ← stringOrder_swap]
  unfold stringOrder
  by_cases hlt : t < s
  · simp [hlt]
  · by_cases heq : t = s <;> simp [hlt, heq]

/-- Everything may stand in front of a missing key, and in front of a string only a string that is
not greater. -/
theorem leads_comesBefore_text {a b : Value} (ha : a.SortsAs .text) (hb : b.SortsAs .text) :
    Sort.Leads comesBefore a b ↔ ∀ t ∈ b.asString?, ∃ s ∈ a.asString?, s ≤ t := by
  rw [leads_comesBefore]
  cases hb' : b.isNil with
  | true =>
    cases b <;> cases hb'
    cases a <;> simp [sortOrder, isNil, asString?]
  | false =>
    obtain ⟨t, rfl⟩ := hb.exists_string hb'
    cases ha' : a.isNil with
    | true =>
      cases a <;> cases ha'
      simp [sortOrder, isNil, asString?]
    | false =>
      obtain ⟨s, rfl⟩ := ha.exists_string ha'
      have horder : sortOrder (string s) (string t) = stringOrder s t := rfl
      rw [horder, stringOrder_ne_gt_iff]
      simp [asString?]

/-- Only equal keys are alike. -/
theorem alike_comesBefore_text {a b : Value} (ha : a.SortsAs .text) (hb : b.SortsAs .text) :
    Sort.alike comesBefore a b = (b.asString? == a.asString?) := by
  rw [Bool.eq_iff_iff, Sort.alike_iff, leads_comesBefore_text ha hb, leads_comesBefore_text hb ha,
    beq_iff_eq]
  constructor
  · rintro ⟨hab, hba⟩
    cases hs : a.asString? with
    | none =>
      cases ht : b.asString? with
      | none => rfl
      | some t =>
        obtain ⟨s, hs', -⟩ := hab t ht
        cases hs.symm.trans hs'
    | some s =>
      obtain ⟨t, ht, hts⟩ := hba s hs
      obtain ⟨s', hs', hst⟩ := hab t ht
      cases hs.symm.trans hs'
      rw [Option.mem_def.1 ht, String.le_antisymm hts hst]
  · intro heq
    rw [heq]
    exact ⟨fun s hs => ⟨s, hs, String.le_refl s⟩, fun s hs => ⟨s, hs, String.le_refl s⟩⟩

end Value

/-- Where a value passes a test if one behind it does, those that pass stand in front. -/
theorem Sort.exists_append_of_pairwise {α : Type} {p : α → Prop} {vs : List α}
    (h : vs.Pairwise fun v w => p w → p v) :
    ∃ front behind, vs = front ++ behind ∧ (∀ v ∈ front, p v) ∧ ∀ v ∈ behind, ¬p v := by
  induction vs with
  | nil => exact ⟨[], [], rfl, nofun, nofun⟩
  | cons v vs ih =>
    obtain ⟨hv, hvs⟩ := List.pairwise_cons.1 h
    by_cases hpv : p v
    · obtain ⟨front, behind, rfl, hfront, hbehind⟩ := ih hvs
      exact ⟨v :: front, behind, rfl, List.forall_mem_cons.2 ⟨hpv, hfront⟩, hbehind⟩
    · exact ⟨[], v :: vs, rfl, nofun,
        List.forall_mem_cons.2 ⟨hpv, fun w hw hpw => hpv (hv w hw hpw)⟩⟩

/-! ### The filter -/

theorem FilterRegistry.apply_sort (value : Value) (arguments : List Value) :
    standard.apply "sort" value arguments = Filter.sort value arguments :=
  apply_onLists (by simp [Filter.onLists]) value arguments

namespace Filter

variable {value : Value} {arguments : List Value}

/-- Items of one key keep their order. -/
theorem filter_eq_of_sorts
    (hkeys : ∀ item ∈ value.items, (sortKey arguments item).SortsAs .text) {sorted : List Value}
    (hsorts : Sort.Sorts (itemBefore arguments)
      (fun v => sortKey arguments v ∈ sortKeys value arguments) value.items sorted)
    (text? : Option String) :
    sorted.filter (fun item => (sortKey arguments item).asString? == text?) =
      value.items.filter (fun item => (sortKey arguments item).asString? == text?) := by
  by_cases hmem : ∃ item ∈ value.items, (sortKey arguments item).asString? = text?
  · obtain ⟨item, hitem, rfl⟩ := hmem
    have hclass : ∀ vs : List Value, (∀ v ∈ vs, v ∈ value.items) →
        vs.filter (fun v => (sortKey arguments v).asString? == (sortKey arguments item).asString?) =
          vs.filter (Sort.alike (itemBefore arguments) item) := fun vs hvs =>
      List.filter_congr fun v hv =>
        (Value.alike_comesBefore_text (hkeys item hitem) (hkeys v (hvs v hv))).symm
    rw [hclass sorted fun v hv => hsorts.perm.mem_iff.1 hv, hclass value.items fun v hv => hv]
    exact hsorts.filter_eq (sortKey_mem_sortKeys item hitem)
  · have hnone : ∀ vs : List Value, (∀ v ∈ vs, v ∈ value.items) →
        vs.filter (fun v => (sortKey arguments v).asString? == text?) = [] := fun vs hvs =>
      List.filter_eq_nil_iff.2 fun v hv heq => hmem ⟨v, hvs v hv, beq_iff_eq.1 heq⟩
    rw [hnone sorted fun v hv => hsorts.perm.mem_iff.1 hv, hnone value.items fun v hv => hv]

/-- A list that is in order stays as it is. -/
theorem sort_of_sorts (h : Transitive (sortKeys value arguments)) {sorted : List Value}
    (hsorts : Sort.Sorts (itemBefore arguments)
      (fun v => sortKey arguments v ∈ sortKeys value arguments) value.items sorted) :
    sort (.list sorted) arguments = .ok (.list sorted) := by
  have hsortBy : Value.sortBy? (sortKey arguments) sorted = some sorted :=
    Sort.sort?_of_pairwise (consistent_itemBefore h)
      (hsorts.forall_mem sortKey_mem_sortKeys) hsorts.sorted
  have hitems : (Value.list sorted).items = sorted := rfl
  rw [sort_eq, hitems, hsortBy]

/-- Where every key is a string or missing, the items with a key come first, in the order of their
keys, and then those without one. No item is lost or added, the items of one key keep their order,
and sorting again changes nothing. -/
theorem sort_strings (value : Value) (arguments : List Value)
    (hkeys : ∀ item ∈ value.items,
      sortKey arguments item = .nil ∨ ∃ s, sortKey arguments item = .string s) :
    ∃ present missing : List Value,
      FilterRegistry.standard.apply "sort" value arguments = .ok (.list (present ++ missing)) ∧
      (present ++ missing).Perm value.items ∧
      (∀ item ∈ present, ∃ s, sortKey arguments item = .string s) ∧
      (present.Pairwise fun v w => ∀ s t : String,
        sortKey arguments v = .string s → sortKey arguments w = .string t → s ≤ t) ∧
      (∀ item ∈ missing, sortKey arguments item = .nil) ∧
      (∀ text? : Option String,
        (present ++ missing).filter (fun item => (sortKey arguments item).asString? == text?) =
          value.items.filter (fun item => (sortKey arguments item).asString? == text?)) ∧
      FilterRegistry.standard.apply "sort" (.list (present ++ missing)) arguments =
        .ok (.list (present ++ missing)) := by
  have htext : ∀ item ∈ value.items, (sortKey arguments item).SortsAs .text := by
    intro item hitem
    rcases hkeys item hitem with hnil | ⟨s, hs⟩
    · rw [hnil]
      trivial
    · rw [hs]
      rfl
  have htrans : Transitive (sortKeys value arguments) :=
    transitive_of_sortsAs (List.forall_mem_map.2 htext)
  obtain ⟨sorted, hsort, hsorts⟩ := exists_sort_sorts htrans
  have hmem : ∀ item ∈ sorted, item ∈ value.items := fun item hitem => hsorts.perm.mem_iff.1 hitem
  have hleads : sorted.Pairwise fun v w => ∀ t ∈ (sortKey arguments w).asString?,
      ∃ s ∈ (sortKey arguments v).asString?, s ≤ t :=
    hsorts.sorted.imp_of_mem fun hv hw hvw => (Value.leads_comesBefore_text
      (htext _ (hmem _ hv)) (htext _ (hmem _ hw))).1 hvw
  have hpresent_first : sorted.Pairwise fun v w =>
      (∃ t, sortKey arguments w = .string t) → ∃ s, sortKey arguments v = .string s := by
    refine hleads.imp fun {v w} hvw => ?_
    rintro ⟨t, ht⟩
    obtain ⟨s, hs, -⟩ := hvw t (by rw [ht]; rfl)
    exact ⟨s, Value.eq_string_of_asString? hs⟩
  obtain ⟨present, missing, rfl, hpresent, hmissing⟩ :=
    Sort.exists_append_of_pairwise hpresent_first
  rw [← FilterRegistry.apply_sort] at hsort
  refine ⟨present, missing, hsort, hsorts.perm, hpresent, ?_, ?_,
    filter_eq_of_sorts htext hsorts, ?_⟩
  · refine (List.pairwise_append.1 hleads).1.imp fun {v w} hvw s t hs ht => ?_
    obtain ⟨s', hs', hle⟩ := hvw t (by rw [ht]; rfl)
    rw [hs] at hs'
    cases hs'
    exact hle
  · intro item hitem
    exact (hkeys item (hmem item (List.mem_append_right present hitem))).resolve_right
      (hmissing item hitem)
  · rw [FilterRegistry.apply_sort]
    exact sort_of_sorts htrans hsorts

/-- Items are sorted by the name that some of them have; what is no dictionary has none. -/
theorem sort_strings_by_name :
    (∀ item ∈ [Value.dict [("name", .string "b")], .integer 3, .dict [("name", .string "a")]],
      sortKey [.string "name"] item = .nil ∨ ∃ s, sortKey [.string "name"] item = .string s) ∧
    ∃ sorted : List Value,
      sorted = [.dict [("name", .string "a")], .dict [("name", .string "b")], .integer 3] ∧
      FilterRegistry.standard.apply "sort" (.list sorted) [.string "name"] =
        .ok (.list sorted) := by
  have hkeys : ∀ item ∈ [Value.dict [("name", .string "b")], .integer 3,
      .dict [("name", .string "a")]],
      sortKey [.string "name"] item = .nil ∨ ∃ s, sortKey [.string "name"] item = .string s := by
    simp only [List.forall_mem_cons, List.not_mem_nil, false_imp_iff, implies_true, and_true]
    exact ⟨.inr ⟨"b", rfl⟩, .inl rfl, .inr ⟨"a", rfl⟩⟩
  obtain ⟨present, missing, hsort, -, -, -, -, -, hagain⟩ := sort_strings
    (.list [.dict [("name", .string "b")], .integer 3, .dict [("name", .string "a")]])
    [.string "name"] hkeys
  have hsorted : sort
      (.list [.dict [("name", .string "b")], .integer 3, .dict [("name", .string "a")]])
      [.string "name"] =
        .ok (.list [.dict [("name", .string "a")], .dict [("name", .string "b")], .integer 3]) := by
    rfl
  rw [FilterRegistry.apply_sort, hsorted, Except.ok.injEq, Value.list.injEq] at hsort
  exact ⟨hkeys, present ++ missing, hsort.symm, hagain⟩

end Filter

end Liquid
