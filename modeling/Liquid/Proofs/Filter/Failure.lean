import Liquid.Filter.Standard
import Liquid.Proofs.Except
import Liquid.Proofs.Keyed

/-!
# How filters fail

- `Filter.Total`: a filter that has a result for every value and all arguments.
- `FilterRegistry.Raises`: an error that a filter of a registry ends in when it is called by one of
  certain names.
- `FilterRegistry.standard_cases`: of the standard filters, all but `sort` and `date` are total.
- `Filter.sort_failsWith`: `sort` only fails where the order of more than twenty values is found to
  contradict itself.
- `FilterRegistry.Raises.cases`: what this says of a registry with filters of a host.
-/

namespace Liquid

/-- The filter has a result for every value and all arguments. -/
def Filter.Total (filter : Filter) : Prop :=
  ∀ (value : Value) (arguments : List Value), ∃ result, filter value arguments = .ok result

/-- A filter that is called by one of certain names ends in that error. -/
def FilterRegistry.Raises (filters : FilterRegistry) (called : String → Prop) (e : Error) : Prop :=
  ∃ name filter, called name ∧ Keyed.get? name filters = some filter
    ∧ ∃ value arguments, filter value arguments = .error e

/-- An order of more than twenty values that is found to contradict itself when they are sorted. -/
def Value.Contradictory (key : Value → Value) (items : List Value) : Prop :=
  20 < items.length ∧ Value.sortBy? key items = none

theorem FilterRegistry.Raises.mono {filters : FilterRegistry} {called called' : String → Prop}
    (hcalled : ∀ name, called name → called' name) {e : Error} (h : filters.Raises called e) :
    filters.Raises called' e := by
  obtain ⟨name, filter, hname, hfilter⟩ := h
  exact ⟨name, filter, hcalled name hname, hfilter⟩

theorem FilterRegistry.apply_failsWith (filters : FilterRegistry) {called : String → Prop}
    {name : String} (hname : called name) (value : Value) (arguments : List Value) :
    FailsWith (filters.Raises called) (filters.apply name value arguments) := by
  intro e h
  rw [apply] at h
  cases hget : Keyed.get? name filters with
  | none =>
    rw [hget] at h
    cases h
  | some filter =>
    rw [hget] at h
    exact ⟨name, filter, hname, hget, value, arguments, h⟩

namespace Filter

/-! ### Total filters -/

theorem total_ofValue (f : Value → Value) : (ofValue f).Total := fun _ _ => ⟨_, rfl⟩

theorem total_onText (f : List Char → List Char) : (onText f).Total := fun _ _ => ⟨_, rfl⟩

theorem total_onTextUnlessNil (f : List Char → List Char) : (onTextUnlessNil f).Total :=
  fun _ _ => ⟨_, rfl⟩

theorem total_textual : ∀ entry ∈ textual, Total entry.2 := by
  have hreplace : ∀ put, (replace put).Total := fun _ _ _ => ⟨_, rfl⟩
  have hremove : ∀ put, (remove put).Total := fun _ _ _ => ⟨_, rfl⟩
  have happend : append.Total := fun _ _ => ⟨_, rfl⟩
  have hprepend : prepend.Total := fun _ _ => ⟨_, rfl⟩
  have htruncate : truncate.Total := fun _ _ => ⟨_, rfl⟩
  have htruncateWords : truncateWords.Total := fun _ _ => ⟨_, rfl⟩
  have hsplit : split.Total := fun _ _ => ⟨_, rfl⟩
  simp only [textual, List.forall_mem_cons, List.not_mem_nil, false_imp_iff, implies_true, and_true,
    total_onText, total_onTextUnlessNil, hreplace, hremove, happend, hprepend, htruncate,
    htruncateWords, hsplit]

theorem total_join : join.Total := by
  intro value arguments
  cases value with
  | list items => exact ⟨_, rfl⟩
  | nil | bool | integer | float | string | dict | drop => exact ⟨_, rfl⟩

theorem total_slice : slice.Total := by
  intro value arguments
  cases value with
  | nil => exact ⟨_, rfl⟩
  | list items => exact ⟨_, rfl⟩
  | bool | integer | float | string | dict | drop => exact ⟨_, rfl⟩

theorem total_onLists : ∀ entry ∈ onLists, entry = ("sort", sort) ∨ Total entry.2 := by
  have hmap : map.Total := fun _ _ => ⟨_, rfl⟩
  simp only [onLists, List.forall_mem_cons, List.not_mem_nil, false_imp_iff, implies_true, and_true,
    total_ofValue, total_join, total_slice, hmap, or_true, true_or]

theorem total_operation (op : Operation) : (operation op).Total := fun _ _ => ⟨_, rfl⟩

theorem total_division (op : Operation) : (division op).Total := by
  intro value arguments
  cases arguments with
  | nil => exact ⟨_, rfl⟩
  | cons divisor rest =>
    by_cases hzero : divisor.toNumber.toFloat == 0
    · exact ⟨_, if_pos hzero⟩
    · exact ⟨_, if_neg hzero⟩

theorem total_round : round.Total := by
  intro value arguments
  unfold round
  extract_lets places
  cases value.toNumber with
  | integer i => exact ⟨_, rfl⟩
  | float x =>
    by_cases hplaces : 0 < places
    · exact ⟨_, if_pos hplaces⟩
    · exact ⟨_, if_neg hplaces⟩

theorem total_arithmetic : ∀ entry ∈ arithmetic, Total entry.2 := by
  simp only [arithmetic, List.forall_mem_cons, List.not_mem_nil, false_imp_iff, implies_true,
    and_true, total_operation, total_division, total_round, total_ofValue]

/-! ### Sorting -/

/-- Sorting fails for one reason only, and not for short lists. -/
theorem sort_failsWith (value : Value) (arguments : List Value) :
    FailsWith (fun e => e = .contradictoryOrder ∧ ∃ key, Value.Contradictory key value.items)
      (sort value arguments) := by
  unfold sort
  extract_lets key
  cases hsorted : Value.sortBy? key value.items with
  | some sorted => exact failsWith_ok _ _
  | none =>
    refine failsWith_error ⟨rfl, key, Nat.lt_of_not_le fun hshort => ?_, hsorted⟩
    -- up to twenty values are sorted by insertion
    rw [Value.sortBy?, Sort.sort?, if_pos hshort] at hsorted
    cases hsorted

end Filter

namespace FilterRegistry

theorem standard_cases :
    ∀ entry ∈ standard,
      entry = ("sort", Filter.sort) ∨ entry = ("date", Filter.date) ∨ Filter.Total entry.2 := by
  intro entry hentry
  rcases Keyed.mem_insertAll hentry with hnil | hentry
  · cases hnil
  · simp only [List.mem_append, List.mem_cons, List.not_mem_nil, or_false] at hentry
    rcases hentry with ((htext | hlist) | harithmetic) | rfl | rfl
    · exact .inr (.inr (Filter.total_textual entry htext))
    · rcases Filter.total_onLists entry hlist with hsort | htotal
      · exact .inl hsort
      · exact .inr (.inr htotal)
    · exact .inr (.inr (Filter.total_arithmetic entry harithmetic))
    · exact .inr (.inr fun _ _ => ⟨_, rfl⟩)
    · exact .inr (.inl rfl)

/-- Where `date` is not among the filters, an error is one of a filter of the host, or of `sort`. -/
theorem Raises.cases {filters : FilterRegistry} {called : String → Prop} {e : Error}
    (h : filters.Raises called e)
    (hdate : ∀ entry ∈ filters, entry ∈ standard → entry.1 ≠ "date") :
    (∃ name filter, called name ∧ Keyed.get? name filters = some filter
        ∧ (name, filter) ∉ standard ∧ ∃ value arguments, filter value arguments = .error e)
      ∨ (called "sort" ∧ Keyed.get? "sort" filters = some Filter.sort
        ∧ e = .contradictoryOrder) := by
  obtain ⟨name, filter, hname, hget, value, arguments, herror⟩ := h
  by_cases hstandard : (name, filter) ∈ standard
  · refine .inr ?_
    rcases standard_cases _ hstandard with hsort | hisDate | htotal
    · cases hsort
      exact ⟨hname, hget, (Filter.sort_failsWith value arguments e herror).1⟩
    · cases hisDate
      exact (hdate _ (Keyed.mem_of_get? hget) hstandard rfl).elim
    · obtain ⟨result, hresult⟩ := htotal value arguments
      cases hresult.symm.trans herror
  · exact .inl ⟨name, filter, hname, hget, hstandard, value, arguments, herror⟩

end FilterRegistry

end Liquid
