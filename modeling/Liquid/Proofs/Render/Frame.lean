import Liquid.Engine

/-!
# What a rendering leaves alone

A rendering may bind names in the scope that it starts in, and it may move positions of loops and
cycles. Everything else in the context stays as it is, also when the rendering fails.

- `Node.binds`: the names that a node binds in the scope that it is rendered in. What a body binds
  that has a scope of its own is not among them.
- `Context.ChangesOnly`: two contexts differ at most in given names of the innermost scope and in
  the registers of loops and cycles.
- `Context.KeepsOuter`: the scopes around the innermost one stay, and so do the attributes.
- `Context.Frame`: a relation between the contexts in front of a node and behind it that built-in
  tags do not break. `Context.KeepsOuter` is one.
- `Rendering.Leads`: two contexts are related, that in front of a rendering and that behind it.
- `Rendering.ChangesOnly`, `Rendering.KeepsOuter`: so with the relations between contexts.
- `Rendering.scopes_inScope`: behind a rendering in a scope of its own, all scopes are as before.
- `Template.render_changesOnly`: this holds of all templates.
-/

namespace Liquid

/-! ### The names that are bound -/

mutual

/-- The names that a node binds in the scope that it is rendered in. -/
def Node.binds : Node → List String
  | .assign name _ => [name]
  | .capture name _ => [name]
  | .host _ action _ bodies => if action.ownScope then [] else bindsBodies bodies
  | .text _ | .output _ | .comment | .raw _ | .cycle _ | .loop .. | .branch .. | .case ..
  | .inclusion .. | .table .. => []

/-- The names that nodes bind in the scope that they are rendered in. -/
def bindsAll : List Node → List String
  | [] => []
  | node :: rest => node.binds ++ bindsAll rest

/-- The names that bodies bind in the scope that they are rendered in. -/
def bindsBodies : List (List Node) → List String
  | [] => []
  | body :: rest => bindsAll body ++ bindsBodies rest

end

/-! ### Contexts -/

namespace Context

/-- The value of a name in the innermost scope. -/
def inner? (name : String) (c : Context) : Option Value :=
  Keyed.get? name (c.scopes.headD [])

/-- Between two contexts, only names of the innermost scope that satisfy `names` and the registers
of loops and cycles change. -/
structure ChangesOnly (names : String → Prop) (before after : Context) : Prop where
  /-- There are as many scopes as before. -/
  depth : after.depth = before.depth
  /-- The scopes around the innermost one stay. -/
  outer : after.scopes.tail = before.scopes.tail
  /-- Other names of the innermost scope stay. -/
  inner : ∀ name, ¬ names name → after.inner? name = before.inner? name
  /-- Other registers stay. -/
  registers : ∀ name, name ≠ LoopHeader.bookmarks → name ≠ Cycle.positions →
    Keyed.get? name after.registers = Keyed.get? name before.registers
  /-- The filters stay. -/
  filters : after.filters = before.filters
  /-- The attributes stay. -/
  attributes : after.attributes = before.attributes

namespace ChangesOnly

variable {names names' : String → Prop} {c d e : Context}

theorem refl (names : String → Prop) (c : Context) : c.ChangesOnly names c where
  depth := rfl
  outer := rfl
  inner _ _ := rfl
  registers _ _ _ := rfl
  filters := rfl
  attributes := rfl

theorem trans (h : c.ChangesOnly names d) (h' : d.ChangesOnly names e) :
    c.ChangesOnly names e where
  depth := h'.depth.trans h.depth
  outer := h'.outer.trans h.outer
  inner name hname := (h'.inner name hname).trans (h.inner name hname)
  registers name hl hc := (h'.registers name hl hc).trans (h.registers name hl hc)
  filters := h'.filters.trans h.filters
  attributes := h'.attributes.trans h.attributes

theorem mono (hsub : ∀ name, names name → names' name) (h : c.ChangesOnly names d) :
    c.ChangesOnly names' d where
  depth := h.depth
  outer := h.outer
  inner name hname := h.inner name fun hn => hname (hsub name hn)
  registers := h.registers
  filters := h.filters
  attributes := h.attributes

end ChangesOnly

/-- Between two contexts, the scopes around the innermost one and the attributes stay. -/
structure KeepsOuter (before after : Context) : Prop where
  /-- There are as many scopes as before. -/
  depth : after.depth = before.depth
  /-- The scopes around the innermost one stay. -/
  outer : after.scopes.tail = before.scopes.tail
  /-- The attributes stay. -/
  attributes : after.attributes = before.attributes

namespace KeepsOuter

variable {c d e : Context}

theorem refl (c : Context) : c.KeepsOuter c := ⟨rfl, rfl, rfl⟩

theorem trans (h : c.KeepsOuter d) (h' : d.KeepsOuter e) : c.KeepsOuter e where
  depth := h'.depth.trans h.depth
  outer := h'.outer.trans h.outer
  attributes := h'.attributes.trans h.attributes

/-- A scope has been opened, and is ended: the scopes are those in front of it. -/
theorem scopes_leave (h : c.push.KeepsOuter d) : d.leave.scopes = c.scopes := h.outer

theorem leave (h : c.push.KeepsOuter d) : c.KeepsOuter d.leave where
  depth := by rw [Context.depth, h.scopes_leave, Context.depth]
  outer := by rw [h.scopes_leave]
  attributes := h.attributes

end KeepsOuter

theorem ChangesOnly.keepsOuter {names : String → Prop} {c d : Context}
    (h : c.ChangesOnly names d) : c.KeepsOuter d :=
  ⟨h.depth, h.outer, h.attributes⟩

theorem inner?_set (name other : String) (value : Value) (c : Context) (h : name ≠ other) :
    (c.set name value).inner? other = c.inner? other := by
  obtain ⟨scopes, registers, filters, attributes⟩ := c
  cases scopes with
  | nil => rfl
  | cons scope outer =>
    show Keyed.get? other (Keyed.insert name value scope) = Keyed.get? other scope
    rw [Keyed.get?_insert, if_neg h]

theorem changesOnly_set {names : String → Prop} {name : String} (hname : names name)
    (value : Value) (c : Context) : c.ChangesOnly names (c.set name value) := by
  -- a name that `names` does not hold of is not the one that is bound
  have hinner : ∀ other, ¬ names other → (c.set name value).inner? other = c.inner? other := by
    intro other hother
    refine inner?_set name other value c fun heq => ?_
    subst heq
    exact hother hname
  obtain ⟨scopes, registers, filters, attributes⟩ := c
  cases scopes with
  | nil => exact .refl names _
  | cons scope outer => exact ⟨rfl, rfl, hinner, fun _ _ _ => rfl, rfl, rfl⟩

theorem changesOnly_merge (values : List (String × Value)) (c : Context) :
    c.ChangesOnly (fun _ => True) (c.merge values) := by
  induction values generalizing c with
  | nil => exact .refl _ c
  | cons entry rest ih => exact (changesOnly_set trivial entry.2 c).trans (ih _)

theorem keepsOuter_set (name : String) (value : Value) (c : Context) :
    c.KeepsOuter (c.set name value) :=
  (changesOnly_set (Eq.refl name) value c).keepsOuter

/-- Loops and cycles keep their positions in registers of their own. -/
theorem changesOnly_setRegisterEntry {group : String}
    (h : group = LoopHeader.bookmarks ∨ group = Cycle.positions) (names : String → Prop)
    (key : String) (value : Value) (c : Context) :
    c.ChangesOnly names (c.setRegisterEntry group key value) where
  depth := rfl
  outer := rfl
  inner _ _ := rfl
  registers name hl hc := by
    have hne : group ≠ name := by
      rintro rfl
      rcases h with h | h
      · exact hl h
      · exact hc h
    rw [setRegisterEntry, setRegister, Keyed.get?_insert, if_neg hne]
  filters := rfl
  attributes := rfl

/-- A relation between the context in front of a node and that behind it. It holds of what built-in
tags do: they bind names, move positions, and open scopes that they end again. -/
structure Frame (Q : Context → Context → Prop) : Prop where
  /-- Nothing may be done. -/
  refl (c : Context) : Q c c
  /-- One thing may be done after another. -/
  trans {c d e : Context} (h : Q c d) (h' : Q d e) : Q c e
  /-- Names may be bound. -/
  set (name : String) (value : Value) (c : Context) : Q c (c.set name value)
  /-- Registers may be set. -/
  setRegisterEntry (group key : String) (value : Value) (c : Context) :
    Q c (c.setRegisterEntry group key value)
  /-- What has been done in a scope may be ended with it. -/
  leave {c d : Context} (h : Q c.push d) : Q c d.leave

/-- The scopes around the innermost one stay. -/
theorem frame_keepsOuter : Frame KeepsOuter where
  refl := .refl
  trans := .trans
  set := keepsOuter_set
  setRegisterEntry _ _ _ _ := ⟨rfl, rfl, rfl⟩
  leave := .leave

namespace Frame

variable {Q : Context → Context → Prop} (hQ : Frame Q)

include hQ

theorem merge (values : List (String × Value)) (c : Context) : Q c (c.merge values) := by
  induction values generalizing c with
  | nil => exact hQ.refl c
  | cons entry rest ih => exact hQ.trans (hQ.set entry.1 entry.2 c) (ih _)

theorem bindIteration (itemName metaName : String) (item : Value) (data : Keyed Value)
    (c : Context) : Q c (Liquid.bindIteration itemName metaName item data c) :=
  hQ.trans (hQ.set itemName item c) (hQ.set metaName _ _)

end Frame

end Context

/-! ### Renderings -/

namespace Rendering

section Leads

variable {Q : Context → Context → Prop} {a b : Rendering}

/-- Behind a rendering, the context is related to that in front of it. -/
def Leads (Q : Context → Context → Prop) (a : Rendering) : Prop := ∀ c : Context, Q c (a c).2

theorem Leads.after {change : Context → Context} (htrans : ∀ {c d e}, Q c d → Q d e → Q c e)
    (hchange : ∀ c : Context, Q c (change c)) (ha : a.Leads Q) : (after change a).Leads Q :=
  fun c => htrans (hchange c) (ha (change c))

theorem Leads.andThen (htrans : ∀ {c d e}, Q c d → Q d e → Q c e) (ha : a.Leads Q)
    (hb : b.Leads Q) : (a.andThen b).Leads Q := by
  intro c
  have hfirst := ha c
  rw [Rendering.andThen]
  cases ha' : a c with
  | mk result d =>
    rw [ha'] at hfirst
    cases result with
    | error e => exact hfirst
    | ok first =>
      have hsecond := hb d
      simp only
      cases hb' : b d with
      | mk result e =>
        rw [hb'] at hsecond
        cases result with
        | error _ => exact htrans hfirst hsecond
        | ok _ => exact htrans hfirst hsecond

theorem Leads.bindTo {name : String} (htrans : ∀ {c d e}, Q c d → Q d e → Q c e)
    (hset : ∀ (value : Value) (c : Context), Q c (c.set name value)) (ha : a.Leads Q) :
    (bindTo name a).Leads Q := by
  intro c
  have hbody := ha c
  rw [Rendering.bindTo]
  cases ha' : a c with
  | mk result d =>
    rw [ha'] at hbody
    cases result with
    | error e => exact hbody
    | ok output => exact htrans hbody (hset _ d)

theorem Leads.eachBehind {α : Type} {f : α → Rendering} {items : List α}
    (hrefl : ∀ c, Q c c) (htrans : ∀ {c d e}, Q c d → Q d e → Q c e)
    (hf : ∀ x ∈ items, (f x).Leads Q) (before : String) :
    (eachBehind f items before).Leads Q := by
  induction items generalizing before with
  | nil => exact hrefl
  | cons x rest ih =>
    intro c
    have hx := hf x List.mem_cons_self c
    rw [Rendering.eachBehind]
    cases hfx : f x c with
    | mk result d =>
      rw [hfx] at hx
      cases result with
      | error e => exact hx
      | ok output => exact htrans hx (ih (fun y hy => hf y (List.mem_cons_of_mem x hy)) _ d)

end Leads

/-- A rendering keeps the scopes around the innermost one, and the attributes. -/
def KeepsOuter (a : Rendering) : Prop := a.Leads Context.KeepsOuter

/-- A rendering changes at most names that satisfy `names`, and positions of loops and cycles. -/
def ChangesOnly (names : String → Prop) (a : Rendering) : Prop :=
  ∀ c : Context, c.ChangesOnly names (a c).2

variable {names : String → Prop} {a b : Rendering}

theorem ChangesOnly.keepsOuter (h : a.ChangesOnly names) : a.KeepsOuter := fun c => (h c).keepsOuter

theorem ChangesOnly.mono {names' : String → Prop} (hsub : ∀ name, names name → names' name)
    (h : a.ChangesOnly names) : a.ChangesOnly names' :=
  fun c => (h c).mono hsub

theorem changesOnly_emit (names : String → Prop) (output : String) :
    (emit output).ChangesOnly names :=
  fun c => .refl names c

theorem changesOnly_fail (names : String → Prop) (error : Error) :
    (fail error).ChangesOnly names :=
  fun c => .refl names c

theorem ChangesOnly.andThen (ha : a.ChangesOnly names) (hb : b.ChangesOnly names) :
    (a.andThen b).ChangesOnly names :=
  Leads.andThen .trans ha hb

theorem ChangesOnly.after {change : Context → Context}
    (hchange : ∀ c : Context, c.ChangesOnly names (change c)) (ha : a.ChangesOnly names) :
    (after change a).ChangesOnly names :=
  Leads.after .trans hchange ha

theorem ChangesOnly.mapOutput (f : String → String) (ha : a.ChangesOnly names) :
    (mapOutput f a).ChangesOnly names :=
  fun c => ha c

theorem ChangesOnly.each {α : Type} {f : α → Rendering} {items : List α}
    (hf : ∀ x ∈ items, (f x).ChangesOnly names) : (each f items).ChangesOnly names :=
  Leads.eachBehind (.refl names) .trans hf ""

theorem ChangesOnly.times {n : Nat} {f : Nat → Rendering}
    (hf : ∀ i < n, (f i).ChangesOnly names) : (times n f).ChangesOnly names := by
  rw [times_eq_each]
  exact .each fun i hi => hf i (List.mem_range.1 hi)

theorem ChangesOnly.renderEach {reversed : Bool} {f : Value → Nat → Rendering} {items : LoopItems}
    (hf : ∀ v i, (f v i).ChangesOnly names) : (items.renderEach reversed f).ChangesOnly names := by
  rw [LoopItems.renderEach_eq_each]
  exact .each fun item _ => hf item.1 item.2

/-- Behind a rendering in a scope of its own, the scopes are what they were. -/
theorem scopes_inScope (ha : a.KeepsOuter) (c : Context) : (inScope a c).2.scopes = c.scopes :=
  (ha c.push).scopes_leave

theorem KeepsOuter.inScope (ha : a.KeepsOuter) : (inScope a).KeepsOuter := fun c =>
  (ha c.push).leave

/-- A rendering in a scope of its own binds nothing around that scope. -/
theorem ChangesOnly.inScope (ha : a.ChangesOnly (fun _ => True)) (names : String → Prop) :
    (inScope a).ChangesOnly names := by
  intro c
  have hscopes := scopes_inScope ha.keepsOuter c
  have hbody := ha c.push
  -- the scope that the body bound names in has ended; all else is that of the body
  exact {
    depth := by rw [Context.depth, hscopes, Context.depth]
    outer := by rw [hscopes]
    inner := fun name _ => by rw [Context.inner?, hscopes, Context.inner?]
    registers := hbody.registers
    filters := hbody.filters
    attributes := hbody.attributes }

/-- What a registered tag does is up to its bodies. -/
theorem ChangesOnly.tagAction (action : TagAction) (values : List Value) {body : Nat → Rendering}
    (hbody : ∀ i, (body i).ChangesOnly names) :
    (action.run values body).ChangesOnly fun name => action.ownScope = false ∧ names name := by
  rw [TagAction.run]
  cases action.steps values with
  | error message => exact changesOnly_fail _ _
  | ok n =>
    have hsteps : (Rendering.times n fun i => body (action.body i)).ChangesOnly names :=
      .times fun i _ => hbody (action.body i)
    refine .mapOutput _ ?_
    cases action.ownScope with
    | true => exact .inScope (hsteps.mono fun _ _ => trivial) _
    | false => exact hsteps.mono fun name hname => ⟨rfl, hname⟩

theorem ChangesOnly.bindTo {name : String} (hname : names name) (ha : a.ChangesOnly names) :
    (bindTo name a).ChangesOnly names :=
  Leads.bindTo .trans (Context.changesOnly_set hname) ha

end Rendering

/-! ### Templates -/

open Rendering

theorem changesOnly_bindIteration (itemName metaName : String) (item : Value)
    (data : Keyed Value) (c : Context) :
    c.ChangesOnly (fun _ => True) (bindIteration itemName metaName item data c) :=
  (Context.changesOnly_set trivial item c).trans (Context.changesOnly_set trivial _ _)

mutual

theorem Node.changesOnly : (node : Node) → node.render.ChangesOnly (· ∈ node.binds)
  | .text text => changesOnly_emit _ text
  | .output pipeline => by
    intro c
    rw [Node.render]
    simp only
    cases pipeline.evaluate c with
    | error e => exact .refl _ c
    | ok v => exact .refl _ c
  | .assign name pipeline => by
    intro c
    rw [Node.render]
    simp only
    cases pipeline.evaluate c with
    | error e => exact .refl _ c
    | ok v => exact Context.changesOnly_set (List.mem_singleton.2 rfl) v c
  | .capture name body => by
    rw [Node.render]
    exact .bindTo (List.mem_singleton.2 rfl) (.inScope (renderAll_changesOnly_any body) _)
  | .comment => changesOnly_emit _ ""
  | .raw text => changesOnly_emit _ text
  | .cycle cycle => by
    intro c
    rw [Node.render]
    exact Context.changesOnly_setRegisterEntry (.inr rfl) _ _ _ c
  | .loop header body otherwise => by
    intro c
    rw [Node.render]
    simp only
    split
    · exact ChangesOnly.inScope (renderAll_changesOnly_any otherwise) _ c
    · refine (Context.changesOnly_setRegisterEntry (.inl rfl) _ _ _ c).trans
        (ChangesOnly.inScope (.renderEach fun v i => ?_) _ _)
      exact .after (changesOnly_bindIteration _ _ _ _) (renderAll_changesOnly_any body)
  | .branch negated branches otherwise => by
    rw [Node.render]
    exact renderBranches_changesOnly negated (.inScope (renderAll_changesOnly_any otherwise) _)
      branches
  | .case subject clauses otherwise => by
    intro c
    rw [Node.render]
    exact renderClauses_changesOnly _ (.inScope (renderAll_changesOnly_any otherwise) _) false
      clauses c
  | .inclusion header body => by
    intro c
    rw [Node.render]
    -- one scope holds the attributes and, one after the other, the values
    refine ChangesOnly.inScope (.after (Context.changesOnly_merge _) (.each fun v _ => ?_)) _ c
    exact .after (fun d => Context.changesOnly_set trivial v d) (renderAll_changesOnly_any body)
  | .table header body => by
    intro c
    rw [Node.render]
    simp only
    split
    · exact .refl _ c
    · refine ChangesOnly.inScope ?_ _ c
      refine .andThen (changesOnly_emit _ _) (.andThen (.renderEach fun v i => ?_)
        (changesOnly_emit _ _))
      refine .after (changesOnly_bindIteration _ _ _ _) (.andThen (changesOnly_emit _ _) ?_)
      exact .andThen (renderAll_changesOnly_any body) (changesOnly_emit _ _)
  | .host name action arguments bodies => by
    intro c
    rw [Node.render]
    refine (ChangesOnly.tagAction action _ (renderBody_changesOnly bodies)).mono ?_ c
    rintro name ⟨hscope, hname⟩
    rwa [Node.binds, hscope]

theorem renderAll_changesOnly : (nodes : List Node) →
    (renderAll nodes).ChangesOnly (· ∈ bindsAll nodes)
  | [] => changesOnly_emit _ ""
  | node :: rest => by
    rw [renderAll]
    exact .andThen
      ((Node.changesOnly node).mono fun name h => List.mem_append_left _ h)
      ((renderAll_changesOnly rest).mono fun name h => List.mem_append_right _ h)

theorem renderBody_changesOnly : (bodies : List (List Node)) → (i : Nat) →
    (renderBody bodies i).ChangesOnly (· ∈ bindsBodies bodies)
  | [], _ => changesOnly_emit _ ""
  | body :: rest, 0 =>
    (renderAll_changesOnly body).mono fun name h => List.mem_append_left _ h
  | body :: rest, i + 1 =>
    (renderBody_changesOnly rest i).mono fun name h => List.mem_append_right _ h

/-- In a scope of their own, nodes may bind any name. -/
theorem renderAll_changesOnly_any (nodes : List Node) :
    (renderAll nodes).ChangesOnly (fun _ => True) :=
  (renderAll_changesOnly nodes).mono fun _ _ => trivial

theorem renderBranches_changesOnly {names : String → Prop} (negated : Bool)
    {otherwise : Rendering} (ho : otherwise.ChangesOnly names) :
    (branches : List (Condition × List Node)) →
      (renderBranches negated otherwise branches).ChangesOnly names
  | [] => ho
  | (condition, body) :: rest => by
    intro c
    rw [renderBranches]
    simp only
    split
    · exact ChangesOnly.inScope (renderAll_changesOnly_any body) _ c
    · exact renderBranches_changesOnly false ho rest c

theorem renderClauses_changesOnly {names : String → Prop} (subject : Value)
    {otherwise : Rendering} (ho : otherwise.ChangesOnly names) (rendered : Bool) :
    (clauses : List (List Expression × List Node)) →
      (renderClauses subject otherwise rendered clauses).ChangesOnly names
  | [] => by
    rw [renderClauses]
    split
    · exact changesOnly_emit _ ""
    · exact ho
  | (values, body) :: rest => by
    intro c
    rw [renderClauses]
    simp only
    split
    · exact ChangesOnly.andThen (.inScope (renderAll_changesOnly_any body) _)
        (renderClauses_changesOnly subject ho true rest) c
    · exact renderClauses_changesOnly subject ho rendered rest c

end

theorem Node.keepsOuter (node : Node) : node.render.KeepsOuter := node.changesOnly.keepsOuter

/-- Whatever comes of a rendering, these stay: the scopes around the innermost one, the names of the
innermost one that no tag outside a scope of its own binds, all registers but those of loops and
cycles, the filters and the attributes. A `capture` whose body fails changes no scope at all. -/
theorem Template.render_changesOnly (template : Template) (c : Context) :
    c.ChangesOnly (· ∈ bindsAll template.nodes) (template.render c).2
      ∧ ∀ (name : String) (body : List Node) (d : Context) (e : Error),
        (renderAll body d.push).1 = .error e →
          ((Node.capture name body).render d).1 = .error e
            ∧ ((Node.capture name body).render d).2.scopes = d.scopes := by
  refine ⟨renderAll_changesOnly template.nodes c, fun name body d e hfail => ?_⟩
  have hscopes := scopes_inScope (renderAll_changesOnly_any body).keepsOuter d
  have hresult : (inScope (renderAll body) d).1 = .error e := hfail
  rw [Node.render, bindTo]
  cases hbody : inScope (renderAll body) d with
  | mk result d' =>
    rw [hbody] at hscopes hresult
    cases hresult
    exact ⟨rfl, hscopes⟩

/-- A body binds the name of its `capture` in a scope of its own and fails: the name keeps its
value. -/
theorem Template.render_changesOnly_failing_capture :
    let c : Context := ⟨[[("total", .integer 1)]], [], [], .none⟩
    let body : List Node := [.assign "total" ⟨some (.literal (.integer 2)), []⟩,
      .host "closed" { steps := fun _ => .error "closed" } [] []]
    let template : Template := ⟨none, [.capture "total" body]⟩
    (renderAll body c.push).1 = .error (.render "closed")
      ∧ c.ChangesOnly (· ∈ ["total"]) (template.render c).2
      ∧ ((Node.capture "total" body).render c).2.scopes = [[("total", .integer 1)]] := by
  intro c body template
  have hfail : (renderAll body c.push).1 = .error (.render "closed") := rfl
  obtain ⟨hchanges, hcapture⟩ := Template.render_changesOnly template c
  exact ⟨hfail, hchanges, (hcapture "total" body c _ hfail).2⟩

end Liquid
