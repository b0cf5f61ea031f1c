import Liquid.Context
import Liquid.Proofs.Keyed

/-!
# Binding names

Names are bound in the innermost scope, and nothing else in a context changes with them.

- `Context.registers_set`, `Context.filters_set`, `Context.attributes_set`, `Context.depth_set`:
  what stays as it is.
- `Context.scopes_merge`: binding names one after the other inserts them in the innermost scope.
- `Context.find?_set`, `Context.find?_merge`: the last binding of a name is found.
- `Context.pop?_eq`: all scopes but the global one can be closed.
-/

namespace Liquid.Context

variable {name : String} {value : Value} {c : Context}

@[simp] theorem registers_set : (c.set name value).registers = c.registers := by
  rw [set]
  split <;> rfl

@[simp] theorem filters_set : (c.set name value).filters = c.filters := by
  rw [set]
  split <;> rfl

@[simp] theorem attributes_set : (c.set name value).attributes = c.attributes := by
  rw [set]
  split <;> rfl

@[simp] theorem depth_set : (c.set name value).depth = c.depth := by
  rw [set]
  split
  · rfl
  · next inner outer hscopes => rw [depth, depth, hscopes, List.length_cons, List.length_cons]

@[simp] theorem depth_merge (values : List (String × Value)) (c : Context) :
    (c.merge values).depth = c.depth := by
  induction values generalizing c with
  | nil => rfl
  | cons entry rest ih => exact (ih _).trans depth_set

theorem scopes_merge {inner : Keyed Value} {outer : List (Keyed Value)}
    (hscopes : c.scopes = inner :: outer) (values : List (String × Value)) :
    (c.merge values).scopes = Keyed.insertAll inner values :: outer := by
  induction values generalizing c inner with
  | nil => exact hscopes
  | cons entry rest ih =>
    refine ih ?_
    show (c.set entry.1 entry.2).scopes = _
    rw [set, hscopes]

/-- The last binding of a name hides all others. -/
theorem find?_merge (hdepth : 0 < c.depth) (values : List (String × Value)) (name : String) :
    (c.merge values).find? name = (values.reverse.lookup name).or (c.find? name) := by
  cases hscopes : c.scopes with
  | nil =>
    rw [depth, hscopes] at hdepth
    cases hdepth
  | cons inner outer =>
    rw [find?, find?, scopes_merge hscopes, hscopes, List.findSome?_cons, List.findSome?_cons,
      Keyed.get?_insertAll]
    cases values.reverse.lookup name <;> rfl

/-- A name that is bound has its new value, and the other names keep theirs. -/
theorem find?_set (hdepth : 0 < c.depth) (other : String) :
    (c.set name value).find? other = if name = other then some value else c.find? other := by
  obtain ⟨scopes, registers, filters, attributes⟩ := c
  cases scopes with
  | nil => cases hdepth
  | cons inner outer =>
    show List.findSome? (Keyed.get? other) (Keyed.insert name value inner :: outer) = _
    rw [List.findSome?_cons, Keyed.get?_insert]
    by_cases h : name = other
    · rw [if_pos h, if_pos h]
    · rw [if_neg h, if_neg h, find?, List.findSome?_cons]

/-- A scope is closed unless it is the global one. -/
theorem pop?_eq (c : Context) :
    c.pop? = if 1 < c.depth then .ok c.leave else .error .globalScope := by
  obtain ⟨scopes, registers, filters, attributes⟩ := c
  match scopes with
  | [] => rfl
  | [_] => rfl
  | _ :: _ :: rest =>
    rw [if_pos (Nat.lt_of_sub_eq_succ rfl)]
    rfl

end Liquid.Context
