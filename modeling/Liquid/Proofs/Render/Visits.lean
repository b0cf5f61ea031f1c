import Liquid.Proofs.Context.Binding
import Liquid.Proofs.Loop.Runs

/-!
# The nodes that are rendered

While templates are rendered in one context, their nodes are rendered one after another, some of
them again and again, and others never. Here they are listed in the order in which they begin, each
with the context in which it begins.

- `Visit`: a node as it begins to be rendered; `Visit.registers` are the registers when it has
  begun.
- `Visit.cycle?`, `Visit.loop?`: the nodes for which these are not those from before.
- `Session`: templates that are rendered one after another in one context.
- `Node.within`, `visitsAll`, `Session.visits`: the nodes that are rendered, also inside of a node.
- `Visit.Chained`: each node finds the registers that the one in front of it has left as it began.
- `Node.within_chained`, `Session.visits_chained`: this holds of whatever is rendered, so registers
  change only where a cycle or a loop begins.
-/

namespace Liquid

open Rendering

/-! ### Visits -/

/-- A node as it begins to be rendered. -/
structure Visit where
  /-- The node. -/
  node : Node
  /-- The context in which it begins. -/
  context : Context

/-- The registers when the node has begun. A cycle has moved on then, and a loop that has something
to go over has remembered where it will stop. -/
def Visit.registers (visit : Visit) : Keyed Value :=
  match visit.node with
  | .cycle cycle => (cycle.step visit.context).2.registers
  | .loop header .. =>
    let run : LoopRun := ⟨header, visit.context⟩
    if run.items.length = 0 then visit.context.registers else run.marked.registers
  | _ => visit.context.registers

/-! ### Cycles and loops -/

/-- A cycle as it is rendered. -/
structure CycleRun where
  /-- The cycle. -/
  cycle : Cycle
  /-- The context in which it is rendered. -/
  context : Context

namespace CycleRun

/-- What the position of the cycle is kept under. -/
def key (run : CycleRun) : String := run.cycle.keyIn run.context

/-- The position of the cycle. -/
def position (run : CycleRun) : Nat := run.cycle.position run.context

end CycleRun

namespace Visit

variable {visit : Visit}

/-- The cycle that a node is. -/
def cycle? : Visit → Option CycleRun
  | ⟨.cycle cycle, context⟩ => some ⟨cycle, context⟩
  | _ => none

/-- The run that a node is: a loop that has something to go over. -/
def loop? : Visit → Option LoopRun
  | ⟨.loop header _ _, context⟩ =>
    let run : LoopRun := ⟨header, context⟩
    if run.items.length = 0 then none else some run
  | _ => none

theorem eq_of_cycle? {run : CycleRun} (h : visit.cycle? = some run) :
    visit.context = run.context
      ∧ visit.registers = (run.cycle.step run.context).2.registers := by
  obtain ⟨node, context⟩ := visit
  cases node with
  | cycle cycle =>
    cases h
    exact ⟨rfl, rfl⟩
  | text | output | assign | capture | comment | raw | loop | branch | case | inclusion | table
  | host => cases h

theorem eq_of_loop? {run : LoopRun} (h : visit.loop? = some run) :
    visit.context = run.context ∧ visit.registers = run.marked.registers := by
  obtain ⟨node, context⟩ := visit
  cases node with
  | loop header body otherwise =>
    simp only [loop?] at h
    split at h
    · cases h
    · next hsome =>
      cases h
      exact ⟨rfl, if_neg hsome⟩
  | text | output | assign | capture | comment | raw | branch | case | cycle | inclusion | table
  | host => cases h

/-- Nodes that are neither change no registers as they begin. -/
theorem registers_eq (hcycle : visit.cycle? = none) (hloop : visit.loop? = none) :
    visit.registers = visit.context.registers := by
  obtain ⟨node, context⟩ := visit
  cases node with
  | cycle => cases hcycle
  | loop header body otherwise =>
    simp only [loop?] at hloop
    split at hloop
    · next hempty => exact if_pos hempty
    · cases hloop
  | text | output | assign | capture | comment | raw | branch | case | inclusion | table
  | host => rfl

end Visit

/-! ### Traces -/

/-- The nodes that are rendered while something is rendered in a context. -/
abbrev Trace := Context → List Visit

namespace Trace

/-- Those of the rendering `a` and, unless it fails, those of what is rendered behind it. -/
def andThen (a : Rendering) (first second : Trace) : Trace := fun c =>
  first c ++ match a c with
    | (.ok _, c) => second c
    | (.error _, _) => []

/-- Those of the renderings of all items in turn, up to one that fails. -/
def each {α : Type} (f : α → Rendering) (trace : α → Trace) : List α → Trace
  | [] => fun _ => []
  | x :: rest => andThen (f x) (trace x) (each f trace rest)

end Trace

/-- Those of the bodies that a registered tag renders, given the values of its arguments. -/
def TagAction.within (action : TagAction) (values : List Value) (body : Nat → Rendering)
    (traces : Nat → Trace) : Trace := fun c =>
  match action.steps values with
  | .error _ => []
  | .ok n =>
    Trace.each (fun i => body (action.body i)) (fun i => traces (action.body i)) (List.range n)
      (if action.ownScope then c.push else c)

mutual

/-- The nodes that are rendered inside of a node. -/
def Node.within : Node → Trace
  | .text _ | .output _ | .assign .. | .comment | .raw _ | .cycle _ => fun _ => []
  | .capture _ body => fun c => visitsAll body c.push
  | .loop header body otherwise => fun c =>
    let run : LoopRun := ⟨header, c⟩
    if run.items.length = 0 then visitsAll otherwise c.push
    else Trace.each (fun item => after (run.bind item) (renderAll body))
      (fun item c => visitsAll body (run.bind item c))
      (run.part.values header.reversed).zipIdx run.marked.push
  | .branch negated branches otherwise =>
    visitsBranches negated (fun c => visitsAll otherwise c.push) branches
  | .case subject clauses otherwise => fun c =>
    visitsClauses (subject.evaluate c) (fun c => visitsAll otherwise c.push) false clauses c
  | .inclusion header body => fun c =>
    Trace.each (fun v => after (Context.set header.bindName v) (renderAll body))
      (fun v c => visitsAll body (c.set header.bindName v))
      (header.bindings c) (c.push.merge (header.attributeValues c))
  | .table header body => fun c =>
    let part := (header.items c).segment (header.offset c) (header.limit? c)
    let columns := (header.columns? c).getD part.length
    let bind (item : Value × Nat) := bindIteration header.itemName "tablerowloop" item.1
      (Table.metadata header.name columns item.2 part.length)
    if part.length = 0 then []
    else Trace.each
      (fun item => after (bind item) ((emit (Table.cellOpening columns item.2)).andThen
        ((renderAll body).andThen (emit (Table.cellClosing columns item.2 part.length)))))
      (fun item c => visitsAll body (bind item c)) (part.values false).zipIdx c.push
  | .host _ action arguments bodies => fun c =>
    action.within (arguments.map (·.evaluate c)) (renderBody bodies) (visitsBody bodies) c

/-- The nodes that are rendered while nodes are rendered one after the other. -/
def visitsAll : List Node → Trace
  | [] => fun _ => []
  | node :: rest =>
    Trace.andThen node.render (fun c => ⟨node, c⟩ :: node.within c) (visitsAll rest)

/-- The nodes that are rendered in body number `i`. -/
def visitsBody : List (List Node) → (i : Nat) → Trace
  | [], _ => fun _ => []
  | body :: _, 0 => visitsAll body
  | _ :: rest, i + 1 => visitsBody rest i

/-- The nodes in the branch that is rendered. -/
def visitsBranches (negated : Bool) (otherwise : Trace) : List (Condition × List Node) → Trace
  | [] => otherwise
  | (condition, body) :: rest => fun c =>
    if condition.evaluate c != negated then visitsAll body c.push
    else visitsBranches false otherwise rest c

/-- The nodes in the clauses that are rendered. -/
def visitsClauses (subject : Value) (otherwise : Trace) (rendered : Bool) :
    List (List Expression × List Node) → Trace
  | [] => if rendered then fun _ => [] else otherwise
  | (values, body) :: rest => fun c =>
    if matchesSubject subject values c then
      Trace.andThen (inScope (renderAll body)) (fun c => visitsAll body c.push)
        (visitsClauses subject otherwise true rest) c
    else visitsClauses subject otherwise rendered rest c

end

/-- Templates that are rendered one after another in one context, each with values that are bound in
front of it. -/
abbrev Session := List (List (String × Value) × Template)

/-- The nodes that are rendered in a session. A template that fails does not end it. -/
def Session.visits : Session → Trace
  | [] => fun _ => []
  | (values, template) :: rest => fun c =>
    visitsAll template.nodes (c.merge values) ++ visits rest (template.render (c.merge values)).2

/-! ### Registers -/

theorem Context.registerEntry_congr {c d : Context} (h : c.registers = d.registers)
    (group key : String) : c.registerEntry group key = d.registerEntry group key := by
  rw [registerEntry, registerEntry, h]

@[simp] theorem Context.registers_merge (values : List (String × Value)) (c : Context) :
    (c.merge values).registers = c.registers := by
  induction values generalizing c with
  | nil => rfl
  | cons entry rest ih => exact (ih _).trans registers_set

theorem registers_bindIteration (itemName metaName : String) (item : Value) (data : Keyed Value)
    (c : Context) : (bindIteration itemName metaName item data c).registers = c.registers := by
  rw [bindIteration, Context.registers_set, Context.registers_set]

/-- When the registers are `first` at the beginning and `last` at the end, each node begins with the
registers that the one in front of it had when it had begun. -/
def Visit.Chained : (first : Keyed Value) → List Visit → (last : Keyed Value) → Prop
  | first, [], last => last = first
  | first, visit :: rest, last =>
    visit.context.registers = first ∧ Chained visit.registers rest last

theorem Visit.Chained.append {first middle last : Keyed Value} {visits more : List Visit}
    (h : Chained first visits middle) (hmore : Chained middle more last) :
    Chained first (visits ++ more) last := by
  induction visits generalizing first with
  | nil =>
    cases h
    exact hmore
  | cons visit rest ih => exact ⟨h.1, ih h.2⟩

/-- The nodes of `trace` account for whatever `a` does to registers. -/
def Rendering.Records (a : Rendering) (trace : Trace) : Prop :=
  ∀ c : Context, Visit.Chained c.registers (trace c) (a c).2.registers

namespace Rendering.Records

variable {a b : Rendering} {trace trace' : Trace}

theorem emit (output : String) : (emit output).Records fun _ => [] := fun _ => rfl

theorem inScope (h : a.Records trace) : (inScope a).Records fun c => trace c.push :=
  fun c => h c.push

theorem mapOutput (f : String → String) (h : a.Records trace) : (mapOutput f a).Records trace := h

theorem after {change : Context → Context}
    (hchange : ∀ c : Context, (change c).registers = c.registers) (h : a.Records trace) :
    (after change a).Records fun c => trace (change c) := by
  intro c
  rw [← hchange c]
  exact h (change c)

theorem bindTo (target : String) (h : a.Records trace) : (bindTo target a).Records trace := by
  intro c
  have hrecords := h c
  rw [Rendering.bindTo]
  rcases ha : a c with ⟨e | output, d⟩
  · rw [ha] at hrecords
    exact hrecords
  · rw [ha] at hrecords
    simp only [Context.registers_set]
    exact hrecords

theorem andThen (ha : a.Records trace) (hb : b.Records trace') :
    (a.andThen b).Records (Trace.andThen a trace trace') := by
  intro c
  have hfirst := ha c
  rw [Rendering.andThen, Trace.andThen]
  rcases hc : a c with ⟨e | first, d⟩
  · rw [hc] at hfirst
    simp only [List.append_nil]
    exact hfirst
  · rw [hc] at hfirst
    have hsecond := hb d
    simp only
    rcases hd : b d with ⟨e | second, d'⟩
    · rw [hd] at hsecond
      exact hfirst.append hsecond
    · rw [hd] at hsecond
      exact hfirst.append hsecond

/-- Text around a rendering is no node of its own. -/
theorem emit_andThen (output : String) (h : a.Records trace) :
    ((Rendering.emit output).andThen a).Records trace :=
  (emit output).andThen h

theorem andThen_emit (output : String) (h : a.Records trace) :
    (a.andThen (Rendering.emit output)).Records trace := by
  intro c
  have hrecords := h c
  rw [Rendering.andThen]
  rcases hc : a c with ⟨e | first, d⟩
  · rw [hc] at hrecords
    exact hrecords
  · rw [hc] at hrecords
    exact hrecords

theorem eachBehind {α : Type} {f : α → Rendering} {traces : α → Trace}
    (hf : ∀ x, (f x).Records (traces x)) (items : List α) (before : String) :
    (eachBehind f items before).Records (Trace.each f traces items) := by
  induction items generalizing before with
  | nil => exact fun _ => rfl
  | cons x rest ih =>
    intro c
    have hx := hf x c
    rw [Rendering.eachBehind, Trace.each, Trace.andThen]
    rcases hc : f x c with ⟨e | output, d⟩
    · rw [hc] at hx
      simp only [List.append_nil]
      exact hx
    · rw [hc] at hx
      exact hx.append (ih (before ++ output) d)

theorem each {α : Type} {f : α → Rendering} {traces : α → Trace}
    (hf : ∀ x, (f x).Records (traces x)) (items : List α) :
    (each f items).Records (Trace.each f traces items) := eachBehind hf items ""

theorem tagAction (action : TagAction) (values : List Value) {body : Nat → Rendering}
    {traces : Nat → Trace} (h : ∀ i, (body i).Records (traces i)) :
    (action.run values body).Records (action.within values body traces) := by
  intro c
  rw [TagAction.run, TagAction.within]
  cases action.steps values with
  | error message => rfl
  | ok n =>
    have hsteps : (Rendering.times n fun i => body (action.body i)).Records
        (Trace.each (fun i => body (action.body i)) (fun i => traces (action.body i))
          (List.range n)) := by
      rw [times_eq_each]
      exact each (fun i => h (action.body i)) _
    cases action.ownScope with
    | true => exact hsteps.inScope.mapOutput _ c
    | false => exact hsteps.mapOutput _ c

end Rendering.Records

mutual

theorem Node.within_chained : (node : Node) → (c : Context) →
    Visit.Chained (Visit.registers ⟨node, c⟩) (node.within c) (node.render c).2.registers
  | .text _, _ | .raw _, _ | .comment, _ | .cycle _, _ => by
    rw [Node.render, Node.within]
    rfl
  | .output pipeline, c => by
    rw [Node.render, Node.within]
    simp only
    cases pipeline.evaluate c <;> rfl
  | .assign target pipeline, c => by
    rw [Node.render, Node.within]
    simp only
    cases pipeline.evaluate c with
    | error e => rfl
    | ok v => exact Context.registers_set
  | .capture target body, c => by
    rw [Node.render, Node.within]
    exact (renderAll_records body).inScope.bindTo target c
  | .loop header body otherwise, c => by
    rw [Node.within]
    simp only [Visit.registers]
    split
    · next h =>
      have hitems : (header.items c).length = 0 := h
      rw [Node.render]
      simp only [if_pos hitems]
      exact (renderAll_records otherwise).inScope c
    · next h =>
      rw [LoopRun.render_eq ⟨header, c⟩ body otherwise h]
      -- the body is rendered where the end of the loop is remembered
      refine (Records.each (fun item => ?_) _).inScope (LoopRun.marked ⟨header, c⟩)
      exact (renderAll_records body).after fun c => registers_bindIteration _ _ _ _ c
  | .branch negated branches otherwise, c => by
    rw [Node.render, Node.within]
    exact renderBranches_records negated (renderAll_records otherwise).inScope branches c
  | .case subject clauses otherwise, c => by
    rw [Node.render, Node.within]
    exact renderClauses_records _ (renderAll_records otherwise).inScope false clauses c
  | .inclusion header body, c => by
    rw [Node.render, Node.within]
    refine Records.inScope (Records.after (Context.registers_merge _) (.each (fun v => ?_) _)) c
    exact (renderAll_records body).after fun c => Context.registers_set
  | .table header body, c => by
    rw [Node.render, Node.within]
    simp only
    split
    · rfl
    · refine Records.inScope (.emit_andThen _ (.andThen_emit _ ?_)) c
      rw [LoopItems.renderEach_eq_each]
      refine .each (fun item => ?_) _
      refine Records.after (fun c => registers_bindIteration _ _ _ _ c) ?_
      exact .emit_andThen _ (.andThen_emit _ (renderAll_records body))
  | .host name action arguments bodies, c => by
    rw [Node.render, Node.within]
    exact Records.tagAction action _ (renderBody_records bodies) c

theorem renderAll_records : (nodes : List Node) → (renderAll nodes).Records (visitsAll nodes)
  | [] => by
    rw [renderAll, visitsAll]
    exact .emit ""
  | node :: rest => by
    rw [renderAll, visitsAll]
    have hnode : node.render.Records fun c => ⟨node, c⟩ :: node.within c :=
      fun c => ⟨rfl, node.within_chained c⟩
    exact hnode.andThen (renderAll_records rest)

theorem renderBody_records : (bodies : List (List Node)) → (i : Nat) →
    (renderBody bodies i).Records (visitsBody bodies i)
  | [], _ => by
    rw [renderBody, visitsBody]
    exact .emit ""
  | body :: _, 0 => by
    rw [renderBody, visitsBody]
    exact renderAll_records body
  | _ :: rest, i + 1 => by
    rw [renderBody, visitsBody]
    exact renderBody_records rest i

theorem renderBranches_records (negated : Bool) {otherwise : Rendering} {trace : Trace}
    (ho : otherwise.Records trace) : (branches : List (Condition × List Node)) →
      (renderBranches negated otherwise branches).Records (visitsBranches negated trace branches)
  | [] => by
    rw [renderBranches, visitsBranches]
    exact ho
  | (condition, body) :: rest => by
    intro c
    rw [renderBranches, visitsBranches]
    simp only
    split
    · exact (renderAll_records body).inScope c
    · exact renderBranches_records false ho rest c

theorem renderClauses_records (subject : Value) {otherwise : Rendering} {trace : Trace}
    (ho : otherwise.Records trace) (rendered : Bool) :
    (clauses : List (List Expression × List Node)) →
      (renderClauses subject otherwise rendered clauses).Records
        (visitsClauses subject trace rendered clauses)
  | [] => by
    rw [renderClauses, visitsClauses]
    split
    · exact .emit ""
    · exact ho
  | (values, body) :: rest => by
    intro c
    rw [renderClauses, visitsClauses]
    simp only
    split
    · exact (renderAll_records body).inScope.andThen
        (renderClauses_records subject ho true rest) c
    · exact renderClauses_records subject ho rendered rest c

end

/-- A session changes registers only where a cycle or a loop begins. -/
theorem Session.visits_chained (session : Session) (c : Context) :
    ∃ last, Visit.Chained c.registers (session.visits c) last := by
  induction session generalizing c with
  | nil => exact ⟨_, rfl⟩
  | cons entry rest ih =>
    obtain ⟨values, template⟩ := entry
    obtain ⟨last, hrest⟩ := ih (template.render (c.merge values)).2
    have hfirst := renderAll_records template.nodes (c.merge values)
    rw [Context.registers_merge] at hfirst
    exact ⟨last, hfirst.append hrest⟩

end Liquid
