import Liquid.Filter.List
import Liquid.Proofs.Decimal.Integers
import Liquid.Proofs.Sort.Order
import Liquid.Proofs.Value.Compare

/-!
# The order of sort keys

Keys are compared with nil at the end, and keys without an order between them as if they were equal.
This contradicts itself across kinds of values, as a list between two strings shows, but not within
one kind.

- `Value.sortOrder`, `Value.comesBefore_eq`: how two keys are compared.
- `Value.sortOrder_swap`: exchanging two keys turns their order round.
- `Value.SortsAs`, `Value.sortOrder_trans`: among keys of one kind, a key does not have to stand
  behind what stands behind what it does not have to stand behind.
- `Value.consistent_comesBefore`: where this holds, keys can be sorted.
-/

namespace Liquid.Value

open Liquid.Decimal

/-- How two keys are compared for sorting: nil comes last, and keys without an order are taken for
equal. -/
def sortOrder (a b : Value) : Ordering :=
  match a.isNil, b.isNil with
  | true, true => .eq
  | true, false => .gt
  | false, true => .lt
  | false, false => (order? a b).getD .eq

/-- A key comes before another if it is less. -/
theorem comesBefore_eq (a b : Value) : comesBefore a b = (sortOrder a b == .lt) := by
  unfold comesBefore sortOrder
  cases a.isNil <;> cases b.isNil
  · show (order? a b == some .lt) = ((order? a b).getD .eq == .lt)
    cases order? a b with
    | none => rfl
    | some o => cases o <;> rfl
  · rfl
  · rfl
  · rfl

/-- Exchanging two keys turns their order round. -/
theorem sortOrder_swap (a b : Value) : sortOrder b a = (sortOrder a b).swap := by
  unfold sortOrder
  cases a.isNil <;> cases b.isNil
  · show (order? b a).getD .eq = ((order? a b).getD .eq).swap
    rw [order?_swap a b]
    cases order? a b <;> rfl
  · rfl
  · rfl
  · rfl

/-- A key may stand in front of another unless it is greater. -/
theorem leads_comesBefore {a b : Value} : Sort.Leads comesBefore a b ↔ sortOrder a b ≠ .gt := by
  show comesBefore b a = false ↔ _
  rw [comesBefore_eq, sortOrder_swap a b]
  cases sortOrder a b <;> decide

/-! ### Keys of one kind -/

/-- The kinds of keys that have an order among themselves, or none at all. -/
inductive SortKind where
  /-- Strings. -/
  | text
  /-- Numbers. -/
  | number
  /-- Truth values, lists, dictionaries and drops, none of which has an order. -/
  | unordered

/-- The key is of a kind, or nil. A NaN is of no kind. -/
def SortsAs (kind : SortKind) : Value → Prop
  | nil => True
  | string _ => kind = .text
  | integer _ => kind = .number
  | float x => kind = .number ∧ x.isNaN = false
  | bool _ | list _ | dict _ | drop _ => kind = .unordered

theorem SortsAs.exists_string {v : Value} (h : v.SortsAs .text) (hv : v.isNil = false) :
    ∃ s, v = string s := by
  cases v with
  | nil => cases hv
  | string s => exact ⟨s, rfl⟩
  | float x => cases h.1
  | _ => cases h

theorem SortsAs.exists_float {v : Value} (h : v.SortsAs .number) (hv : v.isNil = false) :
    v.isNumber = true ∧ ∃ x, v.asFloat? = some x ∧ x.isNaN = false := by
  cases v with
  | nil => cases hv
  | integer i => exact ⟨rfl, ofInt64 i, rfl, isNaN_ofInt64 i⟩
  | float x => exact ⟨rfl, x, rfl, h.2⟩
  | _ => cases h

theorem SortsAs.order?_eq_none {a b : Value} (ha : a.SortsAs .unordered)
    (hb : b.SortsAs .unordered) : order? a b = none := by
  have hplain : ∀ {v : Value}, v.SortsAs .unordered → v.isNumber = false ∧ v.asString? = none := by
    intro v hv
    cases v with
    | integer i => cases hv
    | float x => cases hv.1
    | string s => cases hv
    | _ => exact ⟨rfl, rfl⟩
  rw [order?_of_not_isNumber (by rw [(hplain ha).1, (hplain hb).1]; rfl), (hplain ha).2]
  rfl

/-- The order of values of one kind is transitive. -/
theorem order?_trans {kind : SortKind} {a b c : Value} (ha : a.SortsAs kind) (hb : b.SortsAs kind)
    (hc : c.SortsAs kind) (ha' : a.isNil = false) (hb' : b.isNil = false) (hc' : c.isNil = false)
    (hab : order? a b ≠ some .gt) (hbc : order? b c ≠ some .gt) : order? a c ≠ some .gt := by
  cases kind with
  | text =>
    obtain ⟨s, rfl⟩ := ha.exists_string ha'
    obtain ⟨t, rfl⟩ := hb.exists_string hb'
    obtain ⟨u, rfl⟩ := hc.exists_string hc'
    have hstrings : ∀ s t, order? (string s) (string t) ≠ some .gt ↔ (compare s t).isLE := by
      intro s t
      show some (compare s t) ≠ some .gt ↔ _
      rw [Ordering.isLE_iff_ne_gt, ne_eq, Option.some.injEq]
    rw [hstrings] at hab hbc ⊢
    exact Std.TransOrd.isLE_trans hab hbc
  | number =>
    obtain ⟨hna, x, hx, hx'⟩ := ha.exists_float ha'
    obtain ⟨hnb, y, hy, hy'⟩ := hb.exists_float hb'
    obtain ⟨hnc, z, hz, hz'⟩ := hc.exists_float hc'
    rw [order?_of_isNumber (by rw [hna]; rfl), numberOrder?] at hab ⊢
    rw [order?_of_isNumber (by rw [hnb]; rfl), numberOrder?] at hbc
    rw [hx, hy] at hab
    rw [hy, hz] at hbc
    rw [hx, hz]
    exact floatOrder?_trans hx' hy' hz' hab hbc
  | unordered =>
    rw [ha.order?_eq_none hc]
    exact nofun

/-- Among keys of one kind, the first of three does not have to stand behind the last if it does not
have to stand behind the second, nor the second behind the last. -/
theorem sortOrder_trans {kind : SortKind} {a b c : Value} (ha : a.SortsAs kind)
    (hb : b.SortsAs kind) (hc : c.SortsAs kind) (hab : sortOrder a b ≠ .gt)
    (hbc : sortOrder b c ≠ .gt) : sortOrder a c ≠ .gt := by
  have hgetD : ∀ o : Option Ordering, o.getD .eq ≠ .gt ↔ o ≠ some .gt := by
    intro o
    cases o with
    | none => decide
    | some o => cases o <;> decide
  unfold sortOrder at *
  cases ha' : a.isNil <;> cases hb' : b.isNil <;> cases hc' : c.isNil <;>
    rw [ha', hb'] at hab <;> rw [hb', hc'] at hbc
  -- unless all three are there, nil stands behind a key or does not
  case false.false.false =>
    exact (hgetD _).2 (order?_trans ha hb hc ha' hb' hc' ((hgetD _).1 hab) ((hgetD _).1 hbc))
  all_goals first | exact absurd rfl hab | exact absurd rfl hbc | exact nofun

/-- Keys among which the comparison is transitive are ordered consistently. -/
theorem consistent_comesBefore {P : Value → Prop}
    (htrans : ∀ {a b c}, P a → P b → P c → sortOrder a b ≠ .gt → sortOrder b c ≠ .gt →
      sortOrder a c ≠ .gt) : Sort.Consistent comesBefore P where
  leads {a b} _ _ hlt := by
    rw [comesBefore_eq, beq_iff_eq] at hlt
    rw [leads_comesBefore, hlt]
    decide
  trans ha hb hc hab hbc := by
    rw [leads_comesBefore] at hab hbc ⊢
    exact htrans ha hb hc hab hbc

end Liquid.Value
