import Liquid.Expression.Evaluate
import Liquid.Proofs.Keyed

/-!
# Values without drops

The attributes of a drop depend on the context that reads them. Where no drop is in a value, what
stands in it does not depend on who reads it.

- `Value.DropFree`: no drop is in a value, however deep.
- `Value.member_read_irrel`: reading a member of such a value reads no attribute of a drop.
- `Value.DropFree.member`: what is read is without drops again.
-/

namespace Liquid

namespace Value

/-- No drop is in the value. -/
inductive DropFree : Value → Prop where
  | nil : DropFree .nil
  | bool (b : Bool) : DropFree (.bool b)
  | integer (i : Int64) : DropFree (.integer i)
  | float (x : Float) : DropFree (.float x)
  | string (s : String) : DropFree (.string s)
  | list {items : List Value} (h : ∀ v ∈ items, DropFree v) : DropFree (.list items)
  | dict {entries : List (String × Value)} (h : ∀ entry ∈ entries, DropFree entry.2) :
    DropFree (.dict entries)

theorem dropFree_list_iff {items : List Value} :
    (list items).DropFree ↔ ∀ v ∈ items, v.DropFree := by
  constructor
  · rintro ⟨⟩
    assumption
  · exact .list

theorem dropFree_dict_iff {entries : List (String × Value)} :
    (dict entries).DropFree ↔ ∀ entry ∈ entries, entry.2.DropFree := by
  constructor
  · rintro ⟨⟩
    assumption
  · exact .dict

theorem dropFree_ofNat (n : Nat) : (ofNat n).DropFree := .integer _

/-- What stands for a missing value has no drop in it, either. -/
theorem DropFree.getD {o : Option Value} (h : ∀ v ∈ o, v.DropFree) : (o.getD .nil).DropFree := by
  cases o with
  | none => exact .nil
  | some v => exact h v rfl

/-- Nothing gives way where there is no drop. -/
theorem DropFree.normalize_eq {v : Value} (h : v.DropFree) : v.normalize = v := by
  cases h <;> rfl

theorem dropFree_itemAt {items : List Value} (h : ∀ v ∈ items, v.DropFree) (index : Int64) :
    (itemAt items index).DropFree := by
  have hitem : ∀ n : Nat, (items.getD n .nil).DropFree := by
    intro n
    rw [List.getD_eq_getElem?_getD]
    exact .getD fun v hv => h v (List.mem_of_getElem? hv)
  unfold itemAt
  extract_lets i
  by_cases hi : 0 ≤ i
  · rw [if_pos hi]
    exact hitem i.toNat
  · rw [if_neg hi]
    exact .nil

/-- Reading a member of a value without drops reads no attribute. -/
theorem member_read_irrel {container : Value} (h : container.DropFree)
    (read read' : Drop → String → Value) (atEnd : Bool) (key : Value) :
    container.member read atEnd key = container.member read' atEnd key := by
  cases h <;> rfl

theorem DropFree.member {container : Value} (h : container.DropFree)
    (read : Drop → String → Value) (atEnd : Bool) (key : Value) :
    (container.member read atEnd key).DropFree := by
  cases h with
  | nil | bool b | integer i | float x | string s => exact .nil
  | @dict entries hentries =>
    unfold Value.member
    simp only
    cases hget : Keyed.get? key.toText entries with
    | some v => exact hentries _ (Keyed.mem_of_get? hget)
    | none =>
      simp only
      split
      · exact dropFree_ofNat _
      · exact .nil
  | @list items hitems =>
    cases key with
    | integer i => exact dropFree_itemAt hitems i
    | string name =>
      unfold Value.member
      simp only
      split
      · exact dropFree_ofNat _
      split
      · rw [List.headD_eq_head?_getD]
        exact .getD fun v hv => hitems v (List.mem_of_mem_head? hv)
      split
      · rw [List.getLastD_eq_getLast?]
        exact .getD fun v hv => hitems v (List.mem_of_mem_getLast? hv)
      · cases Decimal.readInt64? name.toList with
        | none => exact .nil
        | some i => exact dropFree_itemAt hitems i
    | nil | bool b | float x | list vs | dict es | drop d => exact .nil

end Value

end Liquid
