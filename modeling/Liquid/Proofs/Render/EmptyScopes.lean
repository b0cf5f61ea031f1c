import Liquid.Proofs.Expression.Lookup
import Liquid.Proofs.Render.Simulation

/-!
# Empty scopes

A scope without names hides nothing. Around the scope that a template is rendered in there may be
any number of them: it comes to the same output, and leaves the same registers. Only the host can
tell, for an attribute may count the scopes that it is read in.

- `Attributes.IgnoresEmptyScopes`: attributes that do not.
- `Context.bindingScopes`, `Context.findsAlike_of_bindingScopes`: expressions read the scopes that
  bind a name.
- `Context.SameBindings`: contexts with the same innermost scope and, apart from empty ones, the
  same scopes around it.
- `Context.SameBindings.congruence`: no tag can tell such contexts apart. The innermost scope must
  be the same one, for names are bound in it.
-/

namespace Liquid

/-- Attributes that do not depend on the scopes in which nothing is bound. They may depend on what
is bound in the others, and in which of them. -/
def Attributes.IgnoresEmptyScopes (attributes : Attributes) : Prop :=
  ∀ object name view, attributes object name view =
    attributes object name { view with scopes := view.scopes.filter fun scope => !scope.isEmpty }

namespace Context

variable {c d : Context}

/-! ### Reading -/

/-- The scopes that bind a name. -/
def bindingScopes (c : Context) : List (Keyed Value) := c.scopes.filter fun scope => !scope.isEmpty

theorem find?_eq (name : String) (c : Context) :
    c.find? name = c.bindingScopes.findSome? (Keyed.get? name) := by
  rw [find?, bindingScopes]
  induction c.scopes with
  | nil => rfl
  | cons scope rest ih =>
    cases scope with
    | nil => exact ih
    | cons entry scope =>
      rw [List.filter_cons_of_pos rfl, List.findSome?_cons, List.findSome?_cons, ih]

/-- What the host sees of the scopes that bind a name. -/
theorem filter_scopes_view (c : Context) :
    c.view.scopes.filter (fun scope => !scope.isEmpty) =
      c.bindingScopes.map (Keyed.mapValues Value.normalize) := by
  rw [view, bindingScopes, List.filter_map]
  congr 1
  refine List.filter_congr fun scope _ => ?_
  cases scope <;> rfl

/-- Attributes are read alike by a host that ignores empty scopes. -/
theorem read_eq_of_bindingScopes (hbinding : c.bindingScopes = d.bindingScopes)
    (hregisters : c.registers = d.registers) (hfilters : c.filters = d.filters)
    (hattributes : c.attributes = d.attributes) (hignore : c.attributes.IgnoresEmptyScopes) :
    c.read = d.read := by
  funext object name
  have hview : { c.view with scopes := c.view.scopes.filter fun scope => !scope.isEmpty } =
      { d.view with scopes := d.view.scopes.filter fun scope => !scope.isEmpty } := by
    simp only [filter_scopes_view, hbinding]
    simp only [view, hregisters, hfilters]
  rw [read, read, ← hattributes, hignore, hview, ← hignore]

/-- Expressions read the scopes that bind a name, and nothing else, where the host does so. -/
theorem findsAlike_of_bindingScopes (h : c.bindingScopes = d.bindingScopes)
    (hread : c.read = d.read) : c.FindsAlike d :=
  findsAlike_of_eq (fun name => by rw [find?_eq, find?_eq, h]) hread

/-- Where a scope has been opened and nothing is bound in it yet, everything reads as before. -/
theorem findsAlike_push (h : c.attributes.IgnoresEmptyScopes) : c.push.FindsAlike c :=
  findsAlike_of_bindingScopes rfl (read_eq_of_bindingScopes rfl rfl rfl rfl h)

/-! ### Rendering -/

/-- Contexts with the same innermost scope and, apart from scopes without names, the same scopes
around it; registers, filters and attributes are the same, and the attributes do not depend on
scopes without names. -/
structure SameBindings (c d : Context) : Prop where
  /-- Names are bound in the same scope. -/
  inner_eq : c.scopes.head? = d.scopes.head?
  /-- The scopes that bind a name are the same. -/
  bindingScopes_eq : c.bindingScopes = d.bindingScopes
  /-- The registers are the same. -/
  registers_eq : c.registers = d.registers
  /-- The filters are the same. -/
  filters_eq : c.filters = d.filters
  /-- The attributes are the same. -/
  attributes_eq : c.attributes = d.attributes
  /-- Attributes do not depend on empty scopes. -/
  ignore : c.attributes.IgnoresEmptyScopes

namespace SameBindings

/-- Opening a scope twice is like opening it once. -/
theorem push_push (h : c.attributes.IgnoresEmptyScopes) : c.push.push.SameBindings c.push :=
  ⟨rfl, rfl, rfl, rfl, rfl, h⟩

theorem findsAlike (h : c.SameBindings d) : c.FindsAlike d :=
  findsAlike_of_bindingScopes h.bindingScopes_eq
    (read_eq_of_bindingScopes h.bindingScopes_eq h.registers_eq h.filters_eq h.attributes_eq
      h.ignore)

theorem set (h : c.SameBindings d) (name : String) (value : Value) :
    (c.set name value).SameBindings (d.set name value) := by
  obtain ⟨scopes, registers, filters, attributes⟩ := c
  obtain ⟨scopes', registers', filters', attributes'⟩ := d
  obtain ⟨hinner, hbinding, hregisters, hfilters, hattributes, hignore⟩ := h
  match scopes, scopes' with
  | [], [] => exact ⟨hinner, hbinding, hregisters, hfilters, hattributes, hignore⟩
  | [], _ :: _ => cases hinner
  | _ :: _, [] => cases hinner
  | inner :: outer, _ :: outer' =>
    cases hinner
    have houter : outer.filter (fun scope => !scope.isEmpty) =
        outer'.filter (fun scope => !scope.isEmpty) := by
      simp only [bindingScopes, List.filter_cons] at hbinding
      split at hbinding
      · exact List.tail_eq_of_cons_eq hbinding
      · exact hbinding
    refine ⟨rfl, ?_, hregisters, hfilters, hattributes, hignore⟩
    simp only [Context.set, bindingScopes, List.filter_cons, houter]

theorem setRegisterEntry (h : c.SameBindings d) (group key : String) (value : Value) :
    (c.setRegisterEntry group key value).SameBindings (d.setRegisterEntry group key value) :=
  { h with
    registers_eq := by
      show Keyed.insert group _ c.registers = Keyed.insert group _ d.registers
      rw [h.registers_eq] }

theorem push (h : c.SameBindings d) : c.push.SameBindings d.push :=
  { h with inner_eq := rfl }

/-- With a scope ended that was opened where the bindings were the same, they are the same again. -/
theorem leave {c' d' : Context} (h : c.SameBindings d) (h' : c'.SameBindings d')
    (hc : c'.leave.scopes = c.scopes) (hd : d'.leave.scopes = d.scopes) :
    c'.leave.SameBindings d'.leave where
  inner_eq := by rw [hc, hd, h.inner_eq]
  bindingScopes_eq := by
    rw [bindingScopes, bindingScopes, hc, hd]
    exact h.bindingScopes_eq
  registers_eq := h'.registers_eq
  filters_eq := h'.filters_eq
  attributes_eq := h'.attributes_eq
  ignore := h'.ignore

/-- No tag can tell contexts apart that have the same bindings. -/
theorem congruence (es : List Expression) : Congruence es (fun _ => True) SameBindings where
  hereditary := Value.hereditary_true
  evaluate_eq h e _ := h.findsAlike.evaluate_eq e
  evaluate _ _ _ := trivial
  range?_eq h e _ := h.findsAlike.range?_eq e
  filters_eq h := h.filters_eq
  apply := by
    intros
    trivial
  registers_eq h := h.registers_eq
  set h name value _ := h.set name value
  setRegisterEntry := setRegisterEntry
  push := push
  leave := leave

end SameBindings

end Context

end Liquid
