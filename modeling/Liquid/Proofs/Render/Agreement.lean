import Liquid.Proofs.Context.Binding
import Liquid.Proofs.Expression.Lookup
import Liquid.Proofs.Filter.DropFree
import Liquid.Proofs.Render.Congruence

/-!
# Contexts that agree

Two contexts agree on expressions if these cannot tell them apart. What else is in the contexts, and
in how many scopes it stands, does not matter, unless a drop tells: its attributes may read any
variable.

- `Context.SameRoots`: same registers, same filters, and the same values under the roots of given
  expressions. `SameRoots.set`, `SameRoots.setRegisterEntry`, `SameRoots.push`, `SameRoots.leave`:
  what a tag does to both contexts leaves it so.
- `Context.Agree`: and there are no drops.
- `Context.AgreeWithDrops`: or there may be some, but their attributes do not depend on variables.
- `Context.Agree.evaluate_eq`: expressions have the same values in contexts that agree.
- `Context.Agree.congruence`, `Context.AgreeWithDrops.congruence`: so no tag can tell such contexts
  apart.
-/

namespace Liquid

namespace Context

/-- The same registers and filters, and the same values under the roots of `es`. -/
structure SameRoots (es : List Expression) (c d : Context) : Prop where
  /-- The filters are the same. -/
  filters : c.filters = d.filters
  /-- The registers are the same. -/
  registers : c.registers = d.registers
  /-- The roots of the expressions have the same values. -/
  roots : ∀ e ∈ es, ∀ name ∈ e.roots, c.root name = d.root name
  /-- The first context has a scope. -/
  leftDepth : 0 < c.depth
  /-- The second context has a scope. -/
  rightDepth : 0 < d.depth

/-- The expressions `es` have the same values in both contexts, without drops, and so have all
registers. -/
structure Agree (es : List Expression) (c d : Context) : Prop extends SameRoots es c d where
  /-- No drop is written in an expression. -/
  literals : ∀ e ∈ es, e.DropFree
  /-- No filter makes a drop. -/
  keepsDropFree : c.filters.KeepsDropFree
  /-- No drop is in the first context. -/
  left : c.DropFree
  /-- No drop is in the second context. -/
  right : d.DropFree

/-- The expressions `es` have the same values in both contexts, and so have all registers. Drops do
not tell the contexts apart. -/
structure AgreeWithDrops (es : List Expression) (c d : Context) : Prop extends
    SameRoots es c d where
  /-- The attributes are the same. -/
  attributes : c.attributes = d.attributes
  /-- They do not depend on variables. -/
  ignore : c.attributes.IgnoresScopes

/-! ### Binding names -/

section

variable {name : String} {value : Value} {c : Context}

theorem root_set (hdepth : 0 < c.depth) (other : String) :
    (c.set name value).root other = if name = other then value else c.root other := by
  rw [root, root, find?_set hdepth]
  by_cases h : name = other
  · rw [if_pos h, if_pos h]
    rfl
  · rw [if_neg h, if_neg h]

theorem DropFree.set (h : c.DropFree) (hv : value.DropFree) : (c.set name value).DropFree := by
  obtain ⟨scopes, registers, filters, attributes⟩ := c
  cases scopes with
  | nil => exact h
  | cons inner outer =>
    intro scope hscope entry hentry
    rcases List.mem_cons.1 hscope with rfl | hscope
    · rcases Keyed.mem_insert hentry with rfl | hentry
      · exact hv
      · exact h inner List.mem_cons_self entry hentry
    · exact h scope (List.mem_cons_of_mem inner hscope) entry hentry

theorem DropFree.push (h : c.DropFree) : c.push.DropFree := by
  intro scope hscope entry hentry
  rcases List.mem_cons.1 hscope with rfl | hscope
  · cases hentry
  · exact h scope hscope entry hentry

end

variable {es : List Expression} {c d : Context}

namespace SameRoots

/-- Binding a name in both contexts hides the same in them. -/
theorem set (h : c.SameRoots es d) (name : String) (value : Value) :
    (c.set name value).SameRoots es (d.set name value) where
  filters := by rw [filters_set, filters_set, h.filters]
  registers := by rw [registers_set, registers_set, h.registers]
  roots e he other hother := by
    rw [root_set h.leftDepth, root_set h.rightDepth, h.roots e he other hother]
  leftDepth := by
    rw [depth_set]
    exact h.leftDepth
  rightDepth := by
    rw [depth_set]
    exact h.rightDepth

theorem setRegisterEntry (h : c.SameRoots es d) (group key : String) (value : Value) :
    (c.setRegisterEntry group key value).SameRoots es (d.setRegisterEntry group key value) :=
  { h with
    registers := by
      show Keyed.insert group _ c.registers = Keyed.insert group _ d.registers
      rw [h.registers] }

/-- A new scope hides nothing. -/
theorem push (h : c.SameRoots es d) : c.push.SameRoots es d.push :=
  { h with
    leftDepth := Nat.succ_pos _
    rightDepth := Nat.succ_pos _ }

/-- A scope is ended that was opened where the roots had the same values: what was bound in that
scope is gone. -/
theorem leave {c' d' : Context} (h : c.SameRoots es d) (h' : c'.SameRoots es d')
    (hc : c'.leave.scopes = c.scopes) (hd : d'.leave.scopes = d.scopes) :
    c'.leave.SameRoots es d'.leave where
  filters := h'.filters
  registers := h'.registers
  roots e he name hname := by
    -- the scopes are those of the contexts that the scope was opened in
    have hroot := h.roots e he name hname
    rwa [root, root, find?, find?, ← hc, ← hd] at hroot
  leftDepth := by
    rw [depth, hc]
    exact h.leftDepth
  rightDepth := by
    rw [depth, hd]
    exact h.rightDepth

end SameRoots

/-! ### Without drops -/

namespace Agree

theorem evaluate_eq (h : c.Agree es d) {e : Expression} (he : e ∈ es) :
    e.evaluate c = e.evaluate d :=
  (Expression.evaluate_eq h.left (h.literals e he) (h.roots e he)).1

theorem dropFree_evaluate (h : c.Agree es d) {e : Expression} (he : e ∈ es) :
    (e.evaluate c).DropFree :=
  (Expression.evaluate_eq h.left (h.literals e he) (h.roots e he)).2

theorem range?_eq (h : c.Agree es d) {e : Expression} (he : e ∈ es) : e.range? c = e.range? d :=
  Expression.range?_eq h.left (h.literals e he) (h.roots e he)

theorem set (h : c.Agree es d) (name : String) {value : Value} (hv : value.DropFree) :
    (c.set name value).Agree es (d.set name value) :=
  { h.toSameRoots.set name value with
    literals := h.literals
    keepsDropFree := by
      rw [filters_set]
      exact h.keepsDropFree
    left := h.left.set hv
    right := h.right.set hv }

theorem push (h : c.Agree es d) : c.push.Agree es d.push :=
  { h.toSameRoots.push with
    literals := h.literals
    keepsDropFree := h.keepsDropFree
    left := h.left.push
    right := h.right.push }

theorem leave {c' d' : Context} (h : c.Agree es d) (h' : c'.Agree es d')
    (hc : c'.leave.scopes = c.scopes) (hd : d'.leave.scopes = d.scopes) :
    c'.leave.Agree es d'.leave :=
  { h.toSameRoots.leave h'.toSameRoots hc hd with
    literals := h.literals
    keepsDropFree := h'.keepsDropFree
    left := by
      rw [DropFree, hc]
      exact h.left
    right := by
      rw [DropFree, hd]
      exact h.right }

/-- Agreement on some expressions is a congruence for them. -/
theorem congruence (es : List Expression) : Congruence es Value.DropFree (Agree es) where
  hereditary := Value.hereditary_dropFree
  evaluate_eq := evaluate_eq
  evaluate := dropFree_evaluate
  range?_eq := range?_eq
  filters_eq h := h.filters
  apply h := h.keepsDropFree.apply
  registers_eq h := h.registers
  set := set
  setRegisterEntry h group key value :=
    { h with toSameRoots := h.toSameRoots.setRegisterEntry group key value }
  push := push
  leave := leave

end Agree

/-! ### With drops -/

namespace AgreeWithDrops

/-- A drop does not see what the contexts differ in. -/
theorem read_eq (h : c.AgreeWithDrops es d) : c.read = d.read := by
  funext object name
  have hview : c.view = { d.view with scopes := c.view.scopes } := by
    simp only [view, h.registers, h.filters]
  rw [read, read, hview, ← h.attributes]
  exact h.ignore object name d.view c.view.scopes

theorem evaluateBy_eq (h : c.AgreeWithDrops es d) {e : Expression}
    (hroots : ∀ name ∈ e.roots, c.root name = d.root name) : e.evaluate c = e.evaluate d := by
  rw [Expression.evaluate, Expression.evaluate, h.read_eq]
  exact e.evaluateBy_congr _ fun name hname => congrArg Value.normalize (hroots name hname)

theorem range?_eq (h : c.AgreeWithDrops es d) {e : Expression} (he : e ∈ es) :
    e.range? c = e.range? d := by
  have hroots := h.roots e he
  cases e with
  | range first last =>
    rw [Expression.range?, Expression.range?,
      h.evaluateBy_eq fun name hname => hroots name (List.mem_append_left _ hname),
      h.evaluateBy_eq fun name hname => hroots name (List.mem_append_right _ hname)]
  | literal | path | array => rfl

theorem congruence (es : List Expression) : Congruence es (fun _ => True) (AgreeWithDrops es) where
  hereditary := Value.hereditary_true
  evaluate_eq h _ he := h.evaluateBy_eq (h.roots _ he)
  evaluate _ _ _ := trivial
  range?_eq := range?_eq
  filters_eq h := h.filters
  apply := by
    intros
    trivial
  registers_eq h := h.registers
  set h name value _ :=
    { h.toSameRoots.set name value with
      attributes := by rw [attributes_set, attributes_set, h.attributes]
      ignore := by
        rw [attributes_set]
        exact h.ignore }
  setRegisterEntry h group key value :=
    { h with toSameRoots := h.toSameRoots.setRegisterEntry group key value }
  push h := { h with toSameRoots := h.toSameRoots.push }
  leave h h' hc hd := { h' with toSameRoots := h.toSameRoots.leave h'.toSameRoots hc hd }

end AgreeWithDrops

end Context

end Liquid
