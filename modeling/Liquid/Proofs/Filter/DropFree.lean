import Liquid.Filter.Standard
import Liquid.Proofs.Value.DropFree

/-!
# Filters without drops

A filter of the host may give any value, also a drop. The standard filters do not make drops.

- `Filter.KeepsDropFree`, `FilterRegistry.KeepsDropFree`: from values without drops, a filter or any
  filter of a registry gives a value without drops.
- `FilterRegistry.keepsDropFree_standard`: the standard filters do so.
-/

namespace Liquid

/-- From values without drops the filter gives a value without drops. -/
def Filter.KeepsDropFree (filter : Filter) : Prop :=
  ∀ (value : Value) (arguments : List Value) (result : Value), value.DropFree →
    (∀ argument ∈ arguments, argument.DropFree) → filter value arguments = .ok result →
    result.DropFree

/-- From values without drops all filters give values without drops. -/
def FilterRegistry.KeepsDropFree (filters : FilterRegistry) : Prop :=
  ∀ entry ∈ filters, Filter.KeepsDropFree entry.2

theorem FilterRegistry.KeepsDropFree.apply {filters : FilterRegistry} (h : filters.KeepsDropFree)
    {name : String} {value : Value} {arguments : List Value} {result : Value}
    (hvalue : value.DropFree) (harguments : ∀ argument ∈ arguments, argument.DropFree)
    (happly : filters.apply name value arguments = .ok result) : result.DropFree := by
  rw [FilterRegistry.apply] at happly
  cases hget : Keyed.get? name filters with
  | none =>
    rw [hget] at happly
    cases happly
    exact hvalue
  | some filter =>
    rw [hget] at happly
    exact h _ (Keyed.mem_of_get? hget) value arguments result hvalue harguments happly

namespace Value

theorem dropFree_items {v : Value} (h : v.DropFree) : ∀ item ∈ v.items, item.DropFree := by
  cases h with
  | list hitems => exact hitems
  | nil =>
    intro item hitem
    cases hitem
  | bool b => exact fun item hitem => List.mem_singleton.1 hitem ▸ .bool b
  | integer i => exact fun item hitem => List.mem_singleton.1 hitem ▸ .integer i
  | float x => exact fun item hitem => List.mem_singleton.1 hitem ▸ .float x
  | string s => exact fun item hitem => List.mem_singleton.1 hitem ▸ .string s
  | dict hentries => exact fun item hitem => List.mem_singleton.1 hitem ▸ .dict hentries

theorem dropFree_property {v : Value} (h : v.DropFree) (name : String) :
    (property name v).DropFree := by
  cases h with
  | dict hentries => exact .getD fun v hv => hentries _ (Keyed.mem_of_get? hv)
  | nil | bool | integer | float | string | list => exact .nil

theorem mem_of_mem_distinct {vs : List Value} {v : Value} (h : v ∈ distinct vs) : v ∈ vs := by
  have hfold : ∀ (rest seen : List Value),
      v ∈ rest.foldl (fun seen v => if seen.any (same · v) then seen else v :: seen) seen →
      v ∈ seen ∨ v ∈ rest := by
    intro rest
    induction rest with
    | nil => exact fun seen h => .inl h
    | cons w rest ih =>
      intro seen h
      rcases ih _ h with hseen | hrest
      · -- `w` is taken if nothing like it was taken before
        change v ∈ if seen.any (same · w) then seen else w :: seen at hseen
        by_cases hw : seen.any (same · w)
        · rw [if_pos hw] at hseen
          exact .inl hseen
        · rw [if_neg hw] at hseen
          rcases List.mem_cons.1 hseen with rfl | hseen
          · exact .inr List.mem_cons_self
          · exact .inl hseen
      · exact .inr (List.mem_cons_of_mem w hrest)
  rcases hfold vs [] (List.mem_reverse.1 h) with hnil | hvs
  · cases hnil
  · exact hvs

end Value

theorem mem_of_mem_slice {α : Type} {items : List α} {start count : Int} {x : α}
    (h : x ∈ slice items start count) : x ∈ items := by
  rw [slice] at h
  cases hbounds : sliceBounds? items.length start count with
  | none =>
    rw [hbounds] at h
    cases h
  | some bounds =>
    rw [hbounds] at h
    exact List.mem_of_mem_drop (List.mem_of_mem_take h)

namespace Filter

/-- A filter whose every result is without drops, whatever it is given. -/
theorem keepsDropFree_of_forall {filter : Filter}
    (h : ∀ value arguments, ∃ result, filter value arguments = .ok result ∧ result.DropFree) :
    filter.KeepsDropFree := by
  intro value arguments result _ _ hresult
  obtain ⟨result', hresult', hfree⟩ := h value arguments
  rw [hresult] at hresult'
  cases hresult'
  exact hfree

theorem keepsDropFree_ofValue {f : Value → Value} (h : ∀ v, v.DropFree → (f v).DropFree) :
    (ofValue f).KeepsDropFree := by
  intro value arguments result hvalue _ hresult
  cases hresult
  exact h value hvalue

theorem keepsDropFree_onText (f : List Char → List Char) : (onText f).KeepsDropFree :=
  keepsDropFree_of_forall fun _ _ => ⟨_, rfl, .string _⟩

theorem keepsDropFree_onTextUnlessNil (f : List Char → List Char) :
    (onTextUnlessNil f).KeepsDropFree := by
  refine keepsDropFree_of_forall fun value arguments => ⟨_, rfl, ?_⟩
  split
  · exact .nil
  · exact .string _

theorem keepsDropFree_textual : ∀ entry ∈ textual, KeepsDropFree entry.2 := by
  have hreplace : ∀ put, (replace put).KeepsDropFree := fun put =>
    keepsDropFree_of_forall fun _ _ => ⟨_, rfl, .string _⟩
  have hremove : ∀ put, (remove put).KeepsDropFree := fun put =>
    keepsDropFree_of_forall fun _ _ => ⟨_, rfl, .string _⟩
  have happend : append.KeepsDropFree :=
    keepsDropFree_of_forall fun _ _ => ⟨_, rfl, .string _⟩
  have hprepend : prepend.KeepsDropFree :=
    keepsDropFree_of_forall fun _ _ => ⟨_, rfl, .string _⟩
  have htruncate : truncate.KeepsDropFree := fun value arguments =>
    keepsDropFree_onTextUnlessNil _ value arguments
  have htruncateWords : truncateWords.KeepsDropFree := fun value arguments =>
    keepsDropFree_onTextUnlessNil _ value arguments
  have hsplit : split.KeepsDropFree := by
    refine keepsDropFree_of_forall fun value arguments => ⟨_, rfl, .list fun v hv => ?_⟩
    obtain ⟨s, -, rfl⟩ := List.mem_map.1 hv
    exact .string _
  -- the others are functions of the text
  simp only [textual, List.forall_mem_cons, List.not_mem_nil, false_imp_iff, implies_true, and_true,
    keepsDropFree_onText, keepsDropFree_onTextUnlessNil, hreplace, hremove, happend, hprepend,
    htruncate, htruncateWords, hsplit]

theorem keepsDropFree_sort : sort.KeepsDropFree := by
  intro value arguments result hvalue _ hresult
  unfold sort at hresult
  extract_lets key at hresult
  cases hsort : Value.sortBy? key value.items with
  | none =>
    rw [hsort] at hresult
    cases hresult
  | some sorted =>
    rw [hsort] at hresult
    cases hresult
    -- sorting only moves the items
    have hperm := Value.perm_of_sortBy? hsort
    exact .list fun v hv => Value.dropFree_items hvalue v (hperm.mem_iff.1 hv)

theorem keepsDropFree_slice : slice.KeepsDropFree := by
  intro value arguments result hvalue _ hresult
  cases hvalue with
  | nil =>
    cases hresult
    exact .nil
  | list hitems =>
    cases hresult
    exact .list fun v hv => hitems v (mem_of_mem_slice hv)
  | bool | integer | float | string | dict =>
    cases hresult
    exact .string _

theorem keepsDropFree_join : join.KeepsDropFree := by
  intro value arguments result hvalue _ hresult
  cases value with
  | list items =>
    cases hresult
    exact .string _
  | nil | bool | integer | float | string | dict | drop =>
    cases hresult
    exact hvalue

theorem keepsDropFree_map : map.KeepsDropFree := by
  intro value arguments result hvalue _ hresult
  cases hresult
  refine .list fun v hv => ?_
  obtain ⟨item, hitem, rfl⟩ := List.mem_map.1 hv
  exact Value.dropFree_property (Value.dropFree_items hvalue item hitem) _

theorem keepsDropFree_onLists : ∀ entry ∈ onLists, KeepsDropFree entry.2 := by
  -- an item of a list, if there is one
  have hitem : ∀ {pick : List Value → Option Value}, (∀ items, ∀ v ∈ pick items, v ∈ items) →
      KeepsDropFree (ofValue fun v => (v.asList?.bind pick).getD .nil) := by
    intro pick hpick
    refine keepsDropFree_ofValue fun v hv => .getD fun w hw => ?_
    cases hv with
    | list hitems => exact hitems w (hpick _ w hw)
    | nil | bool | integer | float | string | dict => cases hw
  have hsize : KeepsDropFree (ofValue fun v => .ofNat (v.length?.getD 0)) :=
    keepsDropFree_ofValue fun v _ => Value.dropFree_ofNat _
  have hreverse : KeepsDropFree (ofValue fun v => .list v.items.reverse) :=
    keepsDropFree_ofValue fun v hv => .list fun w hw =>
      Value.dropFree_items hv w (List.mem_reverse.1 hw)
  have huniq : KeepsDropFree (ofValue fun v => .list (Value.distinct v.items)) :=
    keepsDropFree_ofValue fun v hv => .list fun w hw =>
      Value.dropFree_items hv w (Value.mem_of_mem_distinct hw)
  have hcompact : KeepsDropFree (ofValue fun v => .list (v.items.filter fun item => !item.isNil)) :=
    keepsDropFree_ofValue fun v hv => .list fun w hw =>
      Value.dropFree_items hv w (List.mem_filter.1 hw).1
  have hfirst := hitem fun items v (hv : v ∈ items.head?) => List.mem_of_mem_head? hv
  have hlast := hitem fun items v (hv : v ∈ items.getLast?) => List.mem_of_mem_getLast? hv
  simp only [onLists, List.forall_mem_cons, List.not_mem_nil, false_imp_iff, implies_true, and_true,
    hsize, keepsDropFree_join, keepsDropFree_sort, hreverse, keepsDropFree_map, hfirst, hlast,
    huniq, hcompact, keepsDropFree_slice]

theorem dropFree_apply (op : Operation) (a b : Value.Number) : (op.apply a b).DropFree := by
  cases a with
  | float x => exact .float _
  | integer i =>
    cases b with
    | float y => exact .float _
    | integer j =>
      refine .getD fun v hv => ?_
      obtain ⟨k, -, rfl⟩ := Option.map_eq_some_iff.1 hv
      exact .integer k

theorem dropFree_toInteger (direction : Decimal.Direction) (n : Value.Number) :
    (toInteger direction n).DropFree := by
  cases n with
  | integer i => exact .integer _
  | float x => exact .integer _

theorem keepsDropFree_operation (op : Operation) : (operation op).KeepsDropFree :=
  keepsDropFree_of_forall fun _ _ => ⟨_, rfl, dropFree_apply op _ _⟩

theorem keepsDropFree_division (op : Operation) : (division op).KeepsDropFree := by
  refine keepsDropFree_of_forall fun value arguments => ?_
  cases arguments with
  | nil => exact ⟨_, rfl, .nil⟩
  | cons divisor rest =>
    rw [division]
    by_cases hzero : divisor.toNumber.toFloat == 0
    · rw [if_pos hzero]
      exact ⟨_, rfl, .nil⟩
    · rw [if_neg hzero]
      exact ⟨_, rfl, dropFree_apply op _ _⟩

theorem keepsDropFree_round : round.KeepsDropFree := by
  refine keepsDropFree_of_forall fun value arguments => ?_
  unfold round
  extract_lets places
  cases value.toNumber with
  | integer i => exact ⟨_, rfl, .integer i⟩
  | float x =>
    by_cases hplaces : 0 < places
    · exact ⟨_, if_pos hplaces, .float _⟩
    · exact ⟨_, if_neg hplaces, dropFree_toInteger _ _⟩

theorem keepsDropFree_arithmetic : ∀ entry ∈ arithmetic, KeepsDropFree entry.2 := by
  have hrounded : ∀ direction,
      KeepsDropFree (ofValue fun v => toInteger direction v.toNumber) := fun direction =>
    keepsDropFree_ofValue fun v _ => dropFree_toInteger direction _
  have hmagnitude : KeepsDropFree (ofValue fun v => magnitude v.toNumber) := by
    refine keepsDropFree_ofValue fun v _ => ?_
    cases v.toNumber with
    | integer i => exact Value.dropFree_ofNat _
    | float x => exact .float _
  simp only [arithmetic, List.forall_mem_cons, List.not_mem_nil, false_imp_iff, implies_true,
    and_true, keepsDropFree_operation, keepsDropFree_division, keepsDropFree_round, hrounded,
    hmagnitude]

theorem keepsDropFree_default : default.KeepsDropFree := by
  intro value arguments result hvalue harguments hresult
  cases hresult
  split
  · exact .getD fun v hv => harguments v (List.mem_of_mem_head? hv)
  · exact hvalue

theorem keepsDropFree_date : date.KeepsDropFree := by
  intro value arguments result hvalue _ hresult
  unfold date at hresult
  extract_lets pattern at hresult
  split at hresult
  · cases hresult
    exact hvalue
  · split at hresult
    · split at hresult
      · cases hresult
        exact .string _
      · cases hresult
    · cases hresult
      exact hvalue

end Filter

/-- The standard filters make no drops. -/
theorem FilterRegistry.keepsDropFree_standard : FilterRegistry.standard.KeepsDropFree := by
  intro entry hentry
  rcases Keyed.mem_insertAll hentry with hnil | hentry
  · cases hnil
  · simp only [List.mem_append, List.mem_cons, List.not_mem_nil, or_false] at hentry
    rcases hentry with ((htext | hlist) | harithmetic) | rfl | rfl
    · exact Filter.keepsDropFree_textual entry htext
    · exact Filter.keepsDropFree_onLists entry hlist
    · exact Filter.keepsDropFree_arithmetic entry harithmetic
    · exact Filter.keepsDropFree_default
    · exact Filter.keepsDropFree_date

end Liquid
