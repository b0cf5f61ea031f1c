import Liquid.Proofs.Context.Binding
import Liquid.Proofs.Expression.Lookup
import Liquid.Proofs.Render.Simulation

/-!
# Drops that stand for plain values

A drop may stand for a plain value, which every path gives in its place, and which the host sees in
its place when it computes attributes. Nothing can tell whether a name is bound to the drop or to
the value.

- `Context.Alike`: contexts with the same attributes that the host sees alike.
- `Context.Alike.findsAlike`, `Context.Alike.congruence`: neither an expression nor a tag can tell
  such contexts apart.
- `Template.render_eq_of_plain`: replacing a drop by its value in one scope changes no output, no
  error and no register.
-/

namespace Liquid

/-- A drop that stands for a value without drops gives way to it. -/
theorem Value.normalize_of_plain {d : Drop} {v : Value} (hd : d.plain? = some v)
    (hv : v.DropFree) : (Value.drop d).normalize = v.normalize := by
  rw [hv.normalize_eq, normalize, hd, Option.getD_some]

/-! ### Contexts -/

/-- Contexts in which the host sees the same and computes the same attributes: the same names stand
in the same scopes, under values that no path can tell apart, and registers and filters are the
same. -/
structure Context.Alike (c d : Context) : Prop where
  /-- The host sees the same. -/
  view_eq : c.view = d.view
  /-- The attributes are the same. -/
  attributes_eq : c.attributes = d.attributes

namespace Context

/-- A path begins with what the host sees under its name. -/
theorem normalize_root (c : Context) (name : String) :
    (c.root name).normalize = (c.view.scopes.findSome? (Keyed.get? name)).getD .nil := by
  rw [root, find?, view]
  induction c.scopes with
  | nil => rfl
  | cons scope rest ih =>
    rw [List.map_cons, List.findSome?_cons, List.findSome?_cons, Keyed.get?_mapValues]
    cases Keyed.get? name scope with
    | none => exact ih
    | some v => rfl

theorem view_set (name : String) (value : Value) (c : Context) :
    (c.set name value).view.scopes =
      match c.view.scopes with
      | [] => []
      | inner :: outer => Keyed.insert name value.normalize inner :: outer := by
  obtain ⟨scopes, registers, filters, attributes⟩ := c
  cases scopes with
  | nil => rfl
  | cons inner outer =>
    show Keyed.mapValues _ (Keyed.insert name value inner) :: _ = _
    rw [Keyed.mapValues_insert]
    rfl

namespace Alike

variable {c d : Context} (h : c.Alike d)

include h

theorem scopes_eq : c.view.scopes = d.view.scopes := congrArg View.scopes h.view_eq

theorem registers_eq : c.registers = d.registers := congrArg View.registers h.view_eq

theorem filters_eq : c.filters = d.filters := congrArg View.filters h.view_eq

omit h in
theorem mk' (hscopes : c.view.scopes = d.view.scopes) (hregisters : c.registers = d.registers)
    (hfilters : c.filters = d.filters) (hattributes : c.attributes = d.attributes) : c.Alike d where
  view_eq := by
    rw [View.mk.injEq]
    exact ⟨hscopes, hregisters, hfilters⟩
  attributes_eq := hattributes

theorem findsAlike : c.FindsAlike d where
  root_eq name := by rw [normalize_root, normalize_root, h.scopes_eq]
  read_eq := by
    funext object name
    rw [read, read, h.attributes_eq, h.view_eq]

/-! ### Changes -/

theorem set (name : String) (value : Value) : (c.set name value).Alike (d.set name value) :=
  mk' (by rw [view_set, view_set, h.scopes_eq])
    (by rw [registers_set, registers_set, h.registers_eq])
    (by rw [filters_set, filters_set, h.filters_eq])
    (by rw [attributes_set, attributes_set, h.attributes_eq])

theorem setRegisterEntry (group key : String) (value : Value) :
    (c.setRegisterEntry group key value).Alike (d.setRegisterEntry group key value) := by
  refine mk' h.scopes_eq ?_ h.filters_eq h.attributes_eq
  show Keyed.insert group _ c.registers = Keyed.insert group _ d.registers
  rw [h.registers_eq]

theorem push : c.push.Alike d.push :=
  mk' (congrArg ([] :: ·) h.scopes_eq) h.registers_eq h.filters_eq h.attributes_eq

/-- A scope that is ended leaves both contexts with the scopes that they had before it. -/
theorem leave {c' d' : Context} (h' : c'.Alike d') (hc : c'.leave.scopes = c.scopes)
    (hd : d'.leave.scopes = d.scopes) : c'.leave.Alike d'.leave := by
  refine mk' ?_ h'.registers_eq h'.filters_eq h'.attributes_eq
  rw [view, view, hc, hd]
  exact h.scopes_eq

omit h in
/-- No tag can tell contexts apart in which the values are alike. -/
theorem congruence (es : List Expression) : Congruence es (fun _ => True) Alike where
  hereditary := Value.hereditary_true
  evaluate_eq h e _ := h.findsAlike.evaluate_eq e
  evaluate _ _ _ := trivial
  range?_eq h e _ := h.findsAlike.range?_eq e
  filters_eq := filters_eq
  apply := by
    intros
    trivial
  registers_eq := registers_eq
  set h name value _ := h.set name value
  setRegisterEntry := setRegisterEntry
  push := push
  leave h h' hc hd := h.leave h' hc hd

end Alike

end Context

/-- Where a name is bound to a drop in one of the scopes, the drop can be replaced by the value that
it stands for: a template comes to the same output or the same error, and leaves the same
registers. -/
theorem Template.render_eq_of_plain (template : Template) {c : Context}
    {inner outer : List (Keyed Value)} {front back : Keyed Value} {name : String} {d : Drop}
    {v : Value} (hscopes : c.scopes = inner ++ (front ++ (name, .drop d) :: back) :: outer)
    (hd : d.plain? = some v) (hv : v.DropFree) :
    let c' := { c with scopes := inner ++ (front ++ (name, v) :: back) :: outer }
    (template.render c).1 = (template.render c').1
      ∧ (template.render c).2.registers = (template.render c').2.registers := by
  intro c'
  have hscopes' : c.view.scopes = c'.view.scopes := by
    rw [Context.view, Context.view, hscopes]
    simp only [c', Keyed.mapValues, List.map_append, List.map_cons, Value.normalize_of_plain hd hv]
  have halike : c.Alike c' := .mk' hscopes' rfl rfl rfl
  obtain ⟨houtput, hafter⟩ :=
    ((Context.Alike.congruence _).renderAll_respects template.nodes (List.Subset.refl _)).run halike
  exact ⟨houtput, hafter.registers_eq⟩

/-- A drop that stands for a list is assigned, looped over and picked up by an `include`. -/
theorem Template.render_eq_of_plain_list :
    let items : Value := .list [.integer 1, .integer 2]
    let d : Drop := ⟨7, "", fun _ => false, some items⟩
    let x : Expression := .path "x" [] "x"
    let size : LoopAttribute := .expression (.path "x" [.key "size"] "x.size")
    let header : LoopHeader := ⟨"i", x, "i-x", [("limit", size)], false⟩
    let template : Template := ⟨none, [.assign "y" ⟨some x, []⟩,
      .loop header [.output ⟨some (.path "i" [] "i"), []⟩] [],
      .inclusion ⟨"x", .implicit, []⟩ [.output ⟨some x, []⟩]]⟩
    let c : Context :=
      ⟨[[("n", .nil)], [("a", .nil), ("x", .drop d), ("z", .drop d)]], [], [], .none⟩
    let c' := { c with scopes := [[("n", .nil)], [("a", .nil), ("x", items), ("z", .drop d)]] }
    d.plain? = some items
      ∧ items.DropFree
      ∧ (template.render c).1 = (template.render c').1
      ∧ (template.render c).2.registers = (template.render c').2.registers := by
  intro items d x size header template c c'
  have hitems : items.DropFree := by
    simp only [items, Value.dropFree_list_iff, List.forall_mem_cons, Value.DropFree.integer,
      List.not_mem_nil, false_imp_iff, implies_true, and_self]
  have hscopes : c.scopes = [[("n", .nil)]] ++
      ([("a", .nil)] ++ ("x", .drop d) :: [("z", .drop d)]) :: [] := rfl
  have hrender := Template.render_eq_of_plain template hscopes rfl hitems
  exact ⟨rfl, hitems, hrender⟩

end Liquid
