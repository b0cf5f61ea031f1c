import Liquid.Proofs.Sort.Partition
import Liquid.Proofs.Value.DropFree
import Liquid.Proofs.Value.SortOrder

/-!
# The `sort` filter

A list whose keys are ordered consistently is put in order, whatever its length. Keys are ordered
consistently if they are of one kind; keys of several kinds need not be, and then what the filter
gives need not be in order.

- `Filter.sortKey`: what an item is sorted by.
- `Filter.sort_orders`: what the filter gives where the comparison of the keys is transitive.
- `Filter.sort_mixed`: a list that it leaves out of order.
-/

namespace Liquid.Filter

open Value (sortOrder)

/-- What an item is sorted by: the property that a string argument names, or else itself. -/
def sortKey : (arguments : List Value) → Value → Value
  | .string name :: _ => Value.property name
  | _ => id

theorem sort_eq (value : Value) (arguments : List Value) :
    sort value arguments =
      match Value.sortBy? (sortKey arguments) value.items with
      | some sorted => .ok (.list sorted)
      | none => .error .contradictoryOrder := by
  rfl

/-- The keys of a list. -/
def sortKeys (value : Value) (arguments : List Value) : List Value :=
  value.items.map (sortKey arguments)

/-- Among some keys, the first of three is not greater than the last if it is not greater than the
second, nor the second than the last. -/
def Transitive (keys : List Value) : Prop :=
  ∀ a ∈ keys, ∀ b ∈ keys, ∀ c ∈ keys,
    sortOrder a b ≠ .gt → sortOrder b c ≠ .gt → sortOrder a c ≠ .gt

theorem transitive_of_sortsAs {kind : Value.SortKind} {keys : List Value}
    (h : ∀ key ∈ keys, key.SortsAs kind) : Transitive keys :=
  fun a ha b hb c hc => Value.sortOrder_trans (h a ha) (h b hb) (h c hc)

/-- How the items are ordered by their keys. -/
def itemBefore (arguments : List Value) (v w : Value) : Bool :=
  Value.comesBefore (sortKey arguments v) (sortKey arguments w)

theorem consistent_itemBefore {value : Value} {arguments : List Value}
    (h : Transitive (sortKeys value arguments)) :
    Sort.Consistent (itemBefore arguments)
      (fun v => sortKey arguments v ∈ sortKeys value arguments) :=
  (Value.consistent_comesBefore fun ha hb hc => h _ ha _ hb _ hc).comap (sortKey arguments)

theorem sortKey_mem_sortKeys {value : Value} {arguments : List Value} :
    ∀ v ∈ value.items, sortKey arguments v ∈ sortKeys value arguments :=
  fun _ hv => List.mem_map_of_mem hv

/-- Where the comparison is transitive among the keys of a list, the filter sorts the list. -/
theorem exists_sort_sorts {value : Value} {arguments : List Value}
    (h : Transitive (sortKeys value arguments)) :
    ∃ sorted, sort value arguments = .ok (.list sorted) ∧
      Sort.Sorts (itemBefore arguments)
        (fun v => sortKey arguments v ∈ sortKeys value arguments) value.items sorted := by
  obtain ⟨sorted, hsorted, hsorts⟩ := Sort.sort?_sorts (consistent_itemBefore h) value.items
    sortKey_mem_sortKeys
  have hsortBy : Value.sortBy? (sortKey arguments) value.items = some sorted := hsorted
  refine ⟨sorted, ?_, hsorts⟩
  rw [sort_eq, hsortBy]

/-- Where the comparison is transitive among the keys of a list, the list is put in order. -/
theorem exists_sort_eq {value : Value} {arguments : List Value}
    (h : Transitive (sortKeys value arguments)) :
    ∃ sorted, sort value arguments = .ok (.list sorted) ∧ sorted.Perm value.items ∧
      sorted.Pairwise fun v w =>
        sortOrder (sortKey arguments v) (sortKey arguments w) ≠ .gt := by
  obtain ⟨sorted, hsort, hsorts⟩ := exists_sort_sorts h
  exact ⟨sorted, hsort, hsorts.perm, hsorts.sorted.imp Value.leads_comesBefore.1⟩

/-- The comparison of keys turns round where they are exchanged, and it is transitive among keys of
one kind. Where it is transitive among the keys of a list, sorting gives the items in an order in
which no key is less than one in front of it. -/
theorem sort_orders (value : Value) (arguments : List Value)
    (h : Transitive (sortKeys value arguments)) :
    (∀ a b : Value, sortOrder b a = (sortOrder a b).swap) ∧
      (∀ (kind : Value.SortKind) (keys : List Value), (∀ key ∈ keys, key.SortsAs kind) →
        Transitive keys) ∧
      ∃ sorted, sort value arguments = .ok (.list sorted) ∧ sorted.Perm value.items ∧
        sorted.Pairwise fun v w =>
          sortOrder (sortKey arguments w) (sortKey arguments v) ≠ .lt := by
  refine ⟨Value.sortOrder_swap, fun _ _ => transitive_of_sortsAs, ?_⟩
  obtain ⟨sorted, hsort, hperm, hpairwise⟩ := exists_sort_eq h
  refine ⟨sorted, hsort, hperm, hpairwise.imp fun {v w} hvw => ?_⟩
  rw [Value.sortOrder_swap (sortKey arguments v) (sortKey arguments w)]
  revert hvw
  cases sortOrder (sortKey arguments v) (sortKey arguments w) <;> decide

/-- Items are sorted by a property that is a number in some of them and missing in others. -/
theorem sort_orders_by_property :
    ∃ sorted, sort (.list [.dict [], .dict [("n", .integer 2)], .dict [("n", .float 1)]])
      [.string "n"] = .ok (.list sorted) ∧ sorted.length = 3 := by
  have hkeys : ∀ key ∈ [Value.nil, .integer 2, .float 1], key.SortsAs .number := by
    intro key hkey
    simp only [List.mem_cons, List.not_mem_nil, or_false] at hkey
    rcases hkey with rfl | rfl | rfl
    · exact trivial
    · exact rfl
    · exact ⟨rfl, by decide⟩
  obtain ⟨-, -, sorted, hsort, hperm, -⟩ := sort_orders
    (.list [.dict [], .dict [("n", .integer 2)], .dict [("n", .float 1)]]) [.string "n"]
    (transitive_of_sortsAs hkeys)
  exact ⟨sorted, hsort, hperm.length_eq⟩

/-- A list is taken for equal to both of two strings, and keeps them from being exchanged. -/
theorem sort_mixed :
    (¬∀ a b c : Value, a.DropFree → b.DropFree → c.DropFree → Transitive [a, b, c]) ∧
      sort (.list [.string "b", .list [], .string "a"]) [] =
        .ok (.list [.string "b", .list [], .string "a"]) ∧
      sortOrder (.string "a") (.string "b") = .lt := by
  refine ⟨fun htrans => ?_, by rfl, by decide⟩
  have hgreater : sortOrder (.string "b") (.string "a") ≠ .gt :=
    htrans (.string "b") (.list []) (.string "a") (.string "b") (.list nofun) (.string "a")
      _ (by simp) _ (.tail _ (.head _)) _ (by simp) (by decide) (by decide)
  exact absurd hgreater (by decide)

end Liquid.Filter
