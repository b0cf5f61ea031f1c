import Liquid.Value.Compare
import Liquid.Proofs.Decimal.Order

/-!
# Equality and order of values

Equality and order take another way for every pair of kinds of values. None of the ways depends on
which value comes first, and they agree wherever both have something to say.

- `Value.same_comm`, `Value.looseEq_comm`: both equalities are symmetric.
- `Value.order?_swap`: exchanging two values turns their order round.
- `Value.looseEq_of_order?`: values that have an order are equal if neither has to stand in front of
  the other.
-/

namespace Liquid.Value

open Liquid.Decimal

/-! ### Strings -/

theorem stringOrder_eq (a b : String) : stringOrder a b = compare a b := rfl

theorem stringOrder_swap (a b : String) : stringOrder b a = (stringOrder a b).swap := by
  rw [stringOrder_eq, stringOrder_eq]
  exact Std.OrientedOrd.eq_swap

theorem stringOrder_beq (a b : String) : (stringOrder a b == .eq) = (a == b) := by
  rw [stringOrder_eq, Bool.eq_iff_iff, beq_iff_eq, beq_iff_eq]
  exact Std.LawfulEqOrd.compare_eq_iff_eq

/-! ### Equality -/

mutual

/-- Equality of values as data is symmetric. -/
theorem same_comm (a b : Value) : same a b = same b a := by
  cases a with
  | nil => cases b <;> rfl
  | bool x =>
    cases b with
    | bool y => exact BEq.comm
    | _ => rfl
  | integer x =>
    cases b with
    | integer y => exact BEq.comm
    | _ => rfl
  | float x =>
    cases b with
    | float y => exact beq_comm x y
    | _ => rfl
  | string x =>
    cases b with
    | string y => exact BEq.comm
    | _ => rfl
  | list as =>
    cases b with
    | list bs => exact sameItems_comm as bs
    | _ => rfl
  | dict as =>
    cases b with
    | dict bs => exact sameEntries_comm as bs
    | _ => rfl
  | drop d =>
    cases b with
    | drop e => exact BEq.comm
    | _ => rfl

theorem sameItems_comm (as bs : List Value) : sameItems as bs = sameItems bs as := by
  cases as with
  | nil => cases bs <;> rfl
  | cons a as =>
    cases bs with
    | nil => rfl
    | cons b bs => rw [sameItems, sameItems, same_comm a b, sameItems_comm as bs]

theorem sameEntries_comm (as bs : List (String × Value)) :
    sameEntries as bs = sameEntries bs as := by
  cases as with
  | nil => cases bs <;> rfl
  | cons entry as =>
    cases bs with
    | nil => rfl
    | cons other bs =>
      obtain ⟨k, a⟩ := entry
      obtain ⟨l, b⟩ := other
      rw [sameEntries, sameEntries, same_comm a b, sameEntries_comm as bs, BEq.comm (a := k)]

end

/-! ### Numbers -/

/-- The order of two values as numbers. -/
def numberOrder? (a b : Value) : Option Ordering :=
  a.asFloat?.bind fun x => b.asFloat?.bind fun y => floatOrder? x y

theorem numberOrder?_swap (a b : Value) :
    numberOrder? b a = (numberOrder? a b).map Ordering.swap := by
  unfold numberOrder?
  cases a.asFloat? with
  | none => cases b.asFloat? <;> rfl
  | some x =>
    cases b.asFloat? with
    | none => rfl
    | some y => exact floatOrder?_swap x y

/-- A value is compared as a number with every number. -/
theorem order?_of_isNumber {a b : Value} (h : (a.isNumber || b.isNumber) = true) :
    order? a b = numberOrder? a b := by
  unfold order? numberOrder?
  split
  · cases h
  · rw [if_pos h]
    cases a.asFloat? with
    | none => rfl
    | some x => cases b.asFloat? <;> rfl

/-- Where neither value is a number, only strings have an order. -/
theorem order?_of_not_isNumber {a b : Value} (h : (a.isNumber || b.isNumber) = false) :
    order? a b = a.asString?.bind fun s => b.asString?.map (stringOrder s) := by
  unfold order?
  split
  · rfl
  · next hstrings =>
    rw [if_neg (by simp [h])]
    cases a <;> cases b <;> first | rfl | exact absurd rfl (hstrings _ _ rfl)

/-- Exchanging two values turns their order round. -/
theorem order?_swap (a b : Value) : order? b a = (order? a b).map Ordering.swap := by
  by_cases h : (a.isNumber || b.isNumber) = true
  · rw [order?_of_isNumber h, order?_of_isNumber ((Bool.or_comm _ _).trans h)]
    exact numberOrder?_swap a b
  · have hnone := Bool.eq_false_iff.2 h
    rw [order?_of_not_isNumber hnone, order?_of_not_isNumber ((Bool.or_comm _ _).trans hnone)]
    cases a.asString? with
    | none => cases b.asString? <;> rfl
    | some s =>
      cases b.asString? with
      | none => rfl
      | some t => exact congrArg some (stringOrder_swap s t)

/-! ### Equality in conditions -/

/-- Whether a value is compared with others as itself: nil equals only nil, and a truth value
whatever passes or fails a test as it does. -/
def isPlain : Value → Bool
  | nil | bool _ => false
  | _ => true

theorem isPlain_of_asFloat? {v : Value} {x : Float} (h : v.asFloat? = some x) :
    v.isPlain = true := by
  cases v <;> first | rfl | cases h

theorem looseEq_of_isPlain {a b : Value} (ha : a.isPlain = true) (hb : b.isPlain = true) :
    a.looseEq b =
      if a.isNumber || b.isNumber then numberOrder? a b == some .eq else same a b := by
  unfold looseEq
  split
  case h_7 => rfl
  case h_8 =>
    unfold numberOrder?
    cases a.asFloat? with
    | none => rfl
    | some x =>
      cases b.asFloat? with
      | none => rfl
      | some y =>
        show (if _ then x == y else _) = _
        rw [beq_eq_floatOrder? x y]
        rfl
  -- the other clauses are those of nil and the truth values
  all_goals first | cases ha | cases hb

/-- Equality in conditions is symmetric. -/
theorem looseEq_comm (a b : Value) : a.looseEq b = b.looseEq a := by
  by_cases h : a.isPlain = true ∧ b.isPlain = true
  · rw [looseEq_of_isPlain h.1 h.2, looseEq_of_isPlain h.2 h.1, numberOrder?_swap a b, same_comm,
      Bool.or_comm]
    cases numberOrder? a b with
    | none => rfl
    | some o => cases o <;> rfl
  · -- nil and the truth values have their own clauses on either side
    cases a <;> cases b <;> first | exact absurd ⟨rfl, rfl⟩ h | rfl | exact BEq.comm

/-- Values that have an order are equal if neither has to stand in front of the other. -/
theorem looseEq_of_order? {a b : Value} {o : Ordering} (h : order? a b = some o) :
    a.looseEq b = (o == .eq) := by
  by_cases hnumber : (a.isNumber || b.isNumber) = true
  · rw [order?_of_isNumber hnumber] at h
    obtain ⟨x, hx, hbind⟩ := Option.bind_eq_some_iff.1 h
    obtain ⟨y, hy, -⟩ := Option.bind_eq_some_iff.1 hbind
    rw [looseEq_of_isPlain (isPlain_of_asFloat? hx) (isPlain_of_asFloat? hy), if_pos hnumber, h]
    rfl
  · rw [order?_of_not_isNumber (Bool.eq_false_iff.2 hnumber)] at h
    obtain ⟨s, hs, hmap⟩ := Option.bind_eq_some_iff.1 h
    obtain ⟨t, ht, rfl⟩ := Option.map_eq_some_iff.1 hmap
    cases a <;> cases hs
    cases b <;> cases ht
    exact (stringOrder_beq s t).symm

end Liquid.Value
