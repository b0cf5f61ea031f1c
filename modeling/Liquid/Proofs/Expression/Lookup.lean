import Liquid.Proofs.Expression.Roots

/-!
# What an expression reads of a context

An expression reads a context through the names that it finds in it, and through the attributes of
drops. In which scopes the names stand does not matter to it, nor what else is in the context; it
may matter to the host, though, when an attribute is read.

- `Expression.evaluateBy_congr`: what an expression reads are its roots, and attributes.
- `Context.FindsAlike`: contexts in which the same names are found, bound to values that no path can
  tell apart, and in which the attributes are the same.
- `Context.FindsAlike.evaluate_eq`, `Context.FindsAlike.range?_eq`: no expression can tell such
  contexts apart.
- `Context.findsAlike_of_scopes`: contexts with the same scopes are such, if the host does not tell
  them apart.
- `Attributes.IgnoresRegisters`, `Attributes.IgnoresFilters`, `Attributes.IgnoresScopes`: attributes
  that do not depend on what tags remember, on filters, or on variables, by which a host could do
  so.
- `Context.withObject`: a context with an object that a host computes attributes of.
-/

namespace Liquid

/-- Attributes that do not depend on what tags remember. -/
def Attributes.IgnoresRegisters (attributes : Attributes) : Prop :=
  ∀ object name view registers,
    attributes object name { view with registers } = attributes object name view

/-- Attributes that do not depend on the filters at hand. -/
def Attributes.IgnoresFilters (attributes : Attributes) : Prop :=
  ∀ object name view filters,
    attributes object name { view with filters } = attributes object name view

/-- Attributes that do not depend on variables, nor on the scopes that there are. -/
def Attributes.IgnoresScopes (attributes : Attributes) : Prop :=
  ∀ object name view scopes,
    attributes object name { view with scopes } = attributes object name view

namespace Expression

variable (read : Drop → String → Value) {root root' : String → Value}

mutual

theorem evaluateBy_congr : (e : Expression) →
    (∀ name ∈ e.roots, (root name).normalize = (root' name).normalize) →
      e.evaluateBy read root = e.evaluateBy read root'
  | literal _, _ => rfl
  | path name segments _, hroots => by
    rw [evaluateBy, evaluateBy]
    exact followBy_congr segments (fun other h => hroots other (List.mem_cons_of_mem name h))
      (hroots name List.mem_cons_self)
  | range first last, hroots => by
    rw [evaluateBy, evaluateBy,
      evaluateBy_congr first fun name h => hroots name (List.mem_append_left _ h),
      evaluateBy_congr last fun name h => hroots name (List.mem_append_right _ h)]
  | array items, hroots => by
    rw [evaluateBy, evaluateBy, evaluateAllBy_congr items hroots]

theorem evaluateAllBy_congr : (es : List Expression) →
    (∀ name ∈ rootsAll es, (root name).normalize = (root' name).normalize) →
      evaluateAllBy read root es = evaluateAllBy read root' es
  | [], _ => rfl
  | e :: rest, hroots => by
    rw [evaluateAllBy, evaluateAllBy,
      evaluateBy_congr e fun name h => hroots name (List.mem_append_left _ h),
      evaluateAllBy_congr rest fun name h => hroots name (List.mem_append_right _ h)]

theorem keyBy_congr : (segment : Segment) →
    (∀ name ∈ rootsOfSegment segment, (root name).normalize = (root' name).normalize) →
      keyBy read root segment = keyBy read root' segment
  | .key _, _ => rfl
  | .index e, hroots => evaluateBy_congr e hroots

theorem followBy_congr : (segments : List Segment) →
    (∀ name ∈ rootsOfSegments segments, (root name).normalize = (root' name).normalize) →
      {v w : Value} → v.normalize = w.normalize →
        followBy read root segments v = followBy read root' segments w
  | [], _, _, _, hvalue => hvalue
  | segment :: rest, hroots, v, w, hvalue => by
    rw [followBy, followBy, hvalue,
      keyBy_congr segment fun name h => hroots name (List.mem_append_left _ h)]
    -- from here on, both paths stand at the same value
    generalize w.normalize.member read rest.isEmpty (keyBy read root' segment) = next
    cases next with
    | nil => rfl
    | bool | integer | float | string | list | dict | drop =>
      exact followBy_congr rest (fun name h => hroots name (List.mem_append_right _ h)) rfl

end

end Expression

namespace Context

/-- Contexts in which a path begins with the same value, and in which the attributes of all drops
are the same. At each step of a path a drop gives way to the value it stands for. -/
structure FindsAlike (c d : Context) : Prop where
  /-- Names stand for the same values. -/
  root_eq (name : String) : (c.root name).normalize = (d.root name).normalize
  /-- Attributes are read alike. -/
  read_eq : c.read = d.read

variable {c d : Context}

/-- Contexts in which the same names are found, if the host does not tell them apart. -/
theorem findsAlike_of_eq (hfind : ∀ name, c.find? name = d.find? name) (hread : c.read = d.read) :
    c.FindsAlike d where
  root_eq name := by rw [root, root, hfind]
  read_eq := hread

/-- Names stand in the scopes, and nowhere else. -/
theorem findsAlike_of_scopes (h : c.scopes = d.scopes) (hread : c.read = d.read) :
    c.FindsAlike d :=
  findsAlike_of_eq (fun name => by rw [find?, find?, h]) hread

/-- A host that ignores the registers finds nothing else in contexts with the same scopes, as long
as the filters are the same or it ignores them, too. -/
theorem findsAlike_of_ignoresRegisters (hscopes : c.scopes = d.scopes)
    (hfilters : c.filters = d.filters ∨ c.attributes.IgnoresFilters)
    (hattributes : c.attributes = d.attributes) (hignore : c.attributes.IgnoresRegisters) :
    c.FindsAlike d := by
  refine findsAlike_of_scopes hscopes ?_
  funext object name
  have hview : c.view =
      { d.view with registers := c.registers, filters := c.filters } := by
    rw [view, view, hscopes]
  rw [read, read, ← hattributes, ← hignore object name d.view c.registers, hview]
  rcases hfilters with hfilters | hfilters
  · rw [hfilters]
    rfl
  · exact hfilters object name { d.view with registers := c.registers } c.filters

namespace FindsAlike

/-- An expression has the same value in both contexts. -/
theorem evaluate_eq (h : c.FindsAlike d) (e : Expression) : e.evaluate c = e.evaluate d := by
  rw [Expression.evaluate, Expression.evaluate, h.read_eq]
  exact e.evaluateBy_congr _ fun name _ => h.root_eq name

/-- A range has the same bounds in both contexts. -/
theorem range?_eq (h : c.FindsAlike d) (e : Expression) : e.range? c = e.range? d := by
  cases e with
  | range first last =>
    rw [Expression.range?, Expression.range?, h.evaluate_eq, h.evaluate_eq]
  | literal | path | array => rfl

end FindsAlike

/-- A context in which the name `d` is bound to an object of a host, with any attribute. -/
def withObject (read : String → View → Value) : Context :=
  ⟨[[("d", .drop ⟨0, "", fun _ => true, none⟩)]], [], [], fun _ => read⟩

end Context

/-- The path to an attribute of the object `d`. -/
def Expression.ofObject (name : String) : Expression := .path "d" [.key name] ("d." ++ name)

end Liquid
