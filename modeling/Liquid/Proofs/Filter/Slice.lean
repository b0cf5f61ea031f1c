import Liquid.Proofs.Decimal.Integers
import Liquid.Proofs.Expression.Paths
import Liquid.Proofs.Filter.Standard
import Liquid.Proofs.Template.Defined

/-!
# Positions counted from the end

An index behind a path and the filter `slice` both take a negative position as counted from the end.
They agree on every index, and neither leaves the range of 64-bit integers or the list on the way.

- `positionOf`: the position that an index stands for.
- `Selected`, `selected_slice`: which items `slice` selects.
- `Value.itemAt_eq_of_getElem?`, `Value.itemAt_eq_nil`: which item an index selects.
- `Bounded.slice?`, `Bounded.itemAt?`: both with 64-bit integers, where a sum may not fit and a
  bound may lie outside of the list; `Bounded.slice?_eq`, `Bounded.itemAt?_eq`: neither happens.
- `Filter.slice_positions`: all of it for the filter and for paths.
-/

namespace Liquid

/-- The position that an index stands for. -/
def positionOf (length : Nat) (index : Int) : Int := if index < 0 then length + index else index

/-! ### Which items are selected -/

/-- The items of a list that an offset and a number select. -/
structure Selected {α : Type} (items : List α) (offset count : Int) (part : List α) : Prop where
  /-- From a position of the list on, as many items as asked for or else all up to the end. -/
  inside : ∀ k : Nat, positionOf items.length offset = k → k < items.length → 0 < count →
    k + part.length = min (k + count) items.length ∧ ∀ j < part.length, part[j]? = items[k + j]?
  /-- None without a position or without a number. -/
  outside : ¬(0 ≤ positionOf items.length offset ∧ positionOf items.length offset < items.length) ∨
    count ≤ 0 → part = []

theorem sliceBounds?_eq (length : Nat) (start count : Int) :
    sliceBounds? length start count =
      if positionOf length start < 0 ∨ length ≤ positionOf length start ∨ count ≤ 0 then none
      else some ((positionOf length start).toNat,
        (min count (length - positionOf length start)).toNat) := rfl

theorem slice_eq_nil {α : Type} {items : List α} {start count : Int}
    (h : ¬(0 ≤ positionOf items.length start ∧ positionOf items.length start < items.length) ∨
      count ≤ 0) : slice items start count = [] := by
  rw [slice, sliceBounds?_eq, if_pos (by omega)]

/-- From a position of the list on, as many items as asked for. -/
theorem slice_eq_take {α : Type} {items : List α} {start count : Int} {k : Nat}
    (hk : positionOf items.length start = k) (hlt : k < items.length) (hcount : 0 < count) :
    slice items start count = (items.drop k).take count.toNat := by
  rw [slice, sliceBounds?_eq, hk, if_neg (by omega), Int.toNat_natCast]
  show (items.drop k).take (min count (items.length - k)).toNat = _
  rw [List.take_eq_take_iff, List.length_drop]
  omega

theorem selected_slice {α : Type} (items : List α) (offset count : Int) :
    Selected items offset count (slice items offset count) where
  inside k hk hlt hcount := by
    rw [slice_eq_take hk hlt hcount]
    constructor
    · rw [List.length_take, List.length_drop]
      omega
    · intro j hj
      rw [List.length_take] at hj
      rw [List.getElem?_take_of_lt (by omega), List.getElem?_drop]
  outside := slice_eq_nil

namespace Value

theorem itemAt_eq (items : List Value) (index : Int64) :
    itemAt items index =
      if 0 ≤ positionOf items.length index.toInt then
        items.getD (positionOf items.length index.toInt).toNat .nil
      else .nil := by
  rw [itemAt, positionOf]
  simp only [Decimal.int64_neg_iff]

/-- Both signs of an index reach an item. -/
theorem itemAt_eq_of_getElem? {items : List Value} {index : Int64} {k : Nat} {v : Value}
    (hk : items[k]? = some v) (hindex : index.toInt = k ∨ index.toInt = k - items.length) :
    itemAt items index = v := by
  have hlt : k < items.length := (List.getElem?_eq_some_iff.1 hk).1
  have hposition : positionOf items.length index.toInt = k := by
    rw [positionOf]
    split <;> omega
  rw [itemAt_eq, hposition, if_pos (Int.natCast_nonneg k), Int.toNat_natCast,
    List.getD_eq_getElem?_getD, hk, Option.getD_some]

theorem itemAt_eq_nil {items : List Value} {index : Int64}
    (h : index.toInt < -items.length ∨ items.length ≤ index.toInt) : itemAt items index = .nil := by
  rw [itemAt_eq]
  split
  · next hle =>
    rw [List.getD_eq_default]
    rw [positionOf] at hle ⊢
    split at hle <;> split <;> omega
  · rfl

/-- The item at an index is the first of the items that are selected from there. -/
theorem head?_slice_one (items : List Value) (index : Int64) :
    (slice items index.toInt 1).head?.getD .nil = itemAt items index := by
  rw [itemAt_eq]
  by_cases hinside : 0 ≤ positionOf items.length index.toInt ∧
      positionOf items.length index.toInt < items.length
  · obtain ⟨k, hk⟩ := Int.eq_ofNat_of_zero_le hinside.1
    have hlt : k < items.length := by omega
    rw [slice_eq_take hk hlt Int.one_pos, hk, if_pos (Int.natCast_nonneg k), Int.toNat_natCast,
      List.getD_eq_getElem?_getD, ← List.head?_drop]
    cases items.drop k with
    | nil => rfl
    | cons v rest => rfl
  · rw [slice_eq_nil (.inl hinside), List.head?_nil, Option.getD_none]
    split
    · next hle =>
      rw [List.getD_eq_default _ _ (by omega)]
    · rfl

end Value

/-! ### With integers of 64 bits -/

namespace Bounded

open Decimal

/-- The position that an index stands for, unless it takes a sum that does not fit. -/
def positionOf? (length index : Int64) : Option Int64 :=
  if index < 0 then int64? (length.toInt + index.toInt) else some index

/-- The sum of two integers, or the end of the range that lies nearest to it. -/
def sum (a b : Int64) : Int64 :=
  Int64.ofInt (max Int64.minValue.toInt (min (a.toInt + b.toInt) Int64.maxValue.toInt))

/-- The items that an offset and a number select, unless a sum does not fit, or a bound is no
position of the list. -/
def slice? {α : Type} (items : List α) (offset count : Int64) : Option (List α) := do
  let length ← int64? items.length
  let first ← positionOf? length offset
  if first < 0 ∨ length ≤ first ∨ count ≤ 0 then some []
  else part? items first.toInt.toNat (min (sum first count).toInt length.toInt).toNat

/-- The item at an index, unless a sum does not fit. -/
def itemAt? (items : List Value) (index : Int64) : Option Value := do
  let length ← int64? items.length
  let i ← positionOf? length index
  some (if i < 0 then .nil else items.getD i.toInt.toNat .nil)

theorem exists_positionOf? {n : Nat} {length : Int64} (h : length.toInt = n) (index : Int64) :
    ∃ i, positionOf? length index = some i ∧ i.toInt = positionOf n index.toInt := by
  rw [positionOf?, positionOf, h]
  simp only [int64_neg_iff]
  by_cases hindex : index.toInt < 0
  · rw [if_pos hindex, if_pos hindex]
    -- the length is not negative, and the index is not below the least integer
    have hlow := Int64.le_toInt index
    have hhigh := Int64.toInt_lt length
    exact int64?_eq_some (by omega)
  · rw [if_neg hindex, if_neg hindex]
    exact ⟨index, rfl, rfl⟩

theorem toInt_sum {a b : Int64} (ha : 0 ≤ a.toInt) (hb : 0 ≤ b.toInt) :
    (sum a b).toInt = min (a.toInt + b.toInt) (2 ^ 63 - 1) := by
  rw [sum, Int64.toInt_minValue, Int64.toInt_maxValue, Int64.toInt_ofInt_of_le] <;> omega

/-- With lists that fit into memory nothing fails. -/
theorem slice?_eq {α : Type} {items : List α} (hlength : items.length < 2 ^ 63)
    (offset count : Int64) :
    slice? items offset count = some (slice items offset.toInt count.toInt) := by
  obtain ⟨length, hsome, hlen⟩ := int64?_eq_some (n := items.length) (by omega)
  obtain ⟨first, hfirst, hposition⟩ := exists_positionOf? hlen offset
  have hcondition : first < 0 ∨ length ≤ first ∨ count ≤ 0 ↔
      first.toInt < 0 ∨ items.length ≤ first.toInt ∨ count.toInt ≤ 0 := by
    rw [Int64.lt_iff_toInt_lt, Int64.le_iff_toInt_le, Int64.le_iff_toInt_le, hlen, Int64.toInt_zero]
  rw [slice?, hsome, Option.bind_eq_bind, Option.bind_some, hfirst, Option.bind_some, slice,
    sliceBounds?_eq, ← hposition]
  simp only [hcondition]
  by_cases hnone : first.toInt < 0 ∨ items.length ≤ first.toInt ∨ count.toInt ≤ 0
  · rw [if_pos hnone, if_pos hnone]
  · rw [if_neg hnone, if_neg hnone]
    have hlast : (min (sum first count).toInt length.toInt).toNat = first.toInt.toNat +
        (min count.toInt (items.length - first.toInt)).toNat := by
      rw [toInt_sum (by omega) (by omega), hlen]
      omega
    rw [hlast]
    exact part?_of_le (by omega)

theorem itemAt?_eq {items : List Value} (hlength : items.length < 2 ^ 63) (index : Int64) :
    itemAt? items index = some (Value.itemAt items index) := by
  obtain ⟨length, hsome, hlen⟩ := int64?_eq_some (n := items.length) (by omega)
  obtain ⟨i, hi, hposition⟩ := exists_positionOf? hlen index
  rw [itemAt?, hsome, Option.bind_eq_bind, Option.bind_some, hi, Option.bind_some,
    Value.itemAt_eq, ← hposition]
  simp only [int64_neg_iff, ← Int.not_le, ite_not]

end Bounded

namespace FilterRegistry

theorem apply_slice_list (items : List Value) (offset count : Int64) (rest : List Value) :
    standard.apply "slice" (.list items) (.integer offset :: .integer count :: rest) =
      .ok (.list (slice items offset.toInt count.toInt)) := by
  have hmem : ("slice", Filter.slice) ∈ Filter.onLists := by simp [Filter.onLists]
  rw [apply_onLists hmem]
  rfl

theorem apply_slice_string (s : String) (offset count : Int64) (rest : List Value) :
    standard.apply "slice" (.string s) (.integer offset :: .integer count :: rest) =
      .ok (.string (String.ofList (slice s.toList offset.toInt count.toInt))) := by
  have hmem : ("slice", Filter.slice) ∈ Filter.onLists := by simp [Filter.onLists]
  rw [apply_onLists hmem]
  rfl

theorem apply_first_list (items : List Value) (arguments : List Value) :
    standard.apply "first" (.list items) arguments = .ok (items.head?.getD .nil) := by
  have hmem : ("first", Filter.ofValue fun v => (v.asList?.bind List.head?).getD .nil) ∈
      Filter.onLists := by simp [Filter.onLists]
  exact apply_onLists hmem (.list items) arguments

end FilterRegistry

namespace Filter

open FilterRegistry

/-- An index behind a path to a list gives what `slice` and `first` give: the item at the position
that the index stands for, or nil where the list has none there. `slice` selects the items of a
list, or the characters of a string, from the position on that its offset stands for. In lists that
fit into memory none of it needs more than 64 bits or leaves the list. -/
theorem slice_positions :
    (∀ (items : List Value) (i : Int64), (Value.list items).DropFree →
      ∃ (part : List Value) (v : Value),
      FilterRegistry.standard.apply "slice" (.list items) [.integer i, .integer 1] =
        .ok (.list part) ∧
      FilterRegistry.standard.apply "first" (.list part) [] = .ok v ∧
      (∀ (c : Context) (root raw raw' : String) (segments : List Segment) (index : Expression),
        (Expression.path root segments raw).evaluate c = .list items →
        index.evaluate c = .integer i →
        (Expression.path root (segments ++ [.index index]) raw').evaluate c = v) ∧
      (∀ (k : Nat) (w : Value), items[k]? = some w →
        i.toInt = k ∨ i.toInt = k - items.length → v = w) ∧
      (i.toInt < -items.length ∨ items.length ≤ i.toInt → v = .nil) ∧
      (items.length < 2 ^ 63 → Bounded.itemAt? items i = some v)) ∧
    (∀ (items : List Value) (offset count : Int64) (rest : List Value), ∃ part : List Value,
      FilterRegistry.standard.apply "slice" (.list items)
        (.integer offset :: .integer count :: rest) = .ok (.list part) ∧
      Selected items offset.toInt count.toInt part ∧
      (items.length < 2 ^ 63 → Bounded.slice? items offset count = some part)) ∧
    ∀ (s : String) (offset count : Int64) (rest : List Value), ∃ part : List Char,
      FilterRegistry.standard.apply "slice" (.string s)
        (.integer offset :: .integer count :: rest) = .ok (.string (String.ofList part)) ∧
      Selected s.toList offset.toInt count.toInt part ∧
      (s.toList.length < 2 ^ 63 → Bounded.slice? s.toList offset count = some part) := by
  refine ⟨?_, ?_, ?_⟩
  · intro items i hfree
    refine ⟨_, Value.itemAt items i, apply_slice_list items i 1 [], ?_, ?_, ?_, ?_, ?_⟩
    · rw [apply_first_list]
      exact congrArg Except.ok (Value.head?_slice_one items i)
    · intro c root raw raw' segments index hpath hindex
      rw [Expression.evaluate_append_index index hpath, hindex]
      show (Value.itemAt items i).normalize = Value.itemAt items i
      exact (Value.dropFree_itemAt (Value.dropFree_list_iff.1 hfree) i).normalize_eq
    · intro k w hk hindex
      exact Value.itemAt_eq_of_getElem? hk hindex
    · exact Value.itemAt_eq_nil
    · intro hlength
      exact Bounded.itemAt?_eq hlength i
  · intro items offset count rest
    refine ⟨_, apply_slice_list items offset count rest, selected_slice items _ _, ?_⟩
    intro hlength
    exact Bounded.slice?_eq hlength offset count
  · intro s offset count rest
    refine ⟨_, apply_slice_string s offset count rest, selected_slice s.toList _ _, ?_⟩
    intro hlength
    exact Bounded.slice?_eq hlength offset count

/-- The first item of three counted from the end, an index that no list can have, and as many items
as can be asked for from the last one on. -/
theorem slice_positions_ends :
    let items : List Value := [.string "a", .string "b", .string "c"]
    let c : Context := ⟨[[("xs", .list items)]], [], FilterRegistry.standard, .none⟩
    (Value.list items).DropFree ∧ (Expression.path "xs" [] "xs").evaluate c = .list items ∧
      items.length < 2 ^ 63 ∧
      (Expression.path "xs" [.index (.literal (.integer (-3)))] "xs[-3]").evaluate c = .string "a" ∧
      (Expression.path "xs" [.index (.literal (.integer Int64.minValue))] "xs").evaluate c = .nil ∧
      Bounded.slice? items (-1) Int64.maxValue = some [.string "c"] := by
  intro items c
  have hfree : (Value.list items).DropFree := by
    refine .list fun v hv => ?_
    simp only [items, List.mem_cons, List.not_mem_nil, or_false] at hv
    rcases hv with rfl | rfl | rfl
    · exact .string "a"
    · exact .string "b"
    · exact .string "c"
  have hpath : (Expression.path "xs" [] "xs").evaluate c = .list items := rfl
  have hlength : items.length < 2 ^ 63 := by decide
  refine ⟨hfree, hpath, hlength, ?_, ?_, ?_⟩
  · obtain ⟨part, v, -, -, hindex, hitem, -⟩ := slice_positions.1 items (-3) hfree
    rw [← hitem 0 (.string "a") rfl (.inr (by decide))]
    exact hindex c "xs" "xs" _ [] _ hpath rfl
  · obtain ⟨part, v, -, -, hindex, -, hnil, -⟩ := slice_positions.1 items Int64.minValue hfree
    rw [← hnil (.inl (by decide))]
    exact hindex c "xs" "xs" _ [] _ hpath rfl
  · obtain ⟨part, hpart, -, hbounded⟩ := slice_positions.2.1 items (-1) Int64.maxValue []
    have hslice : Liquid.slice items (-1 : Int64).toInt Int64.maxValue.toInt =
        [.string "c"] := by rfl
    rw [apply_slice_list, hslice] at hpart
    cases hpart
    exact hbounded hlength

end Filter

end Liquid
