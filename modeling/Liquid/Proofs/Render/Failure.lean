import Liquid.Proofs.Document.Derivation
import Liquid.Proofs.Filter.Failure
import Liquid.Proofs.Context.Binding
import Liquid.Proofs.Render.Frame
import Liquid.Proofs.Template.Nodes

/-!
# How rendering fails

Nothing fails in rendering but filters: neither the tags nor what they evaluate on the way.

- `Rendering.FailsIn`: which errors a rendering has, when the filters at hand are known.
- `Node.Calls`, `Template.Calls`: the names of the filters that are called anywhere in a tree.
- `Node.failsIn_of_makes`: the nodes of a template, with registered tags left out, have no errors
  but those of the filters that they call.
- `Engine.failsIn_of_compile`: nor has anything that a source compiles to.
-/

namespace Liquid

open Rendering

/-! ### Renderings -/

namespace Rendering

/-- With these filters, the rendering ends in no errors but those that satisfy `P`, and it leaves
the filters as they are. -/
def FailsIn (filters : FilterRegistry) (P : Error → Prop) (a : Rendering) : Prop :=
  ∀ c : Context, c.filters = filters → FailsWith P (a c).1 ∧ (a c).2.filters = filters

variable {filters : FilterRegistry} {P Q : Error → Prop} {a b : Rendering}

theorem FailsIn.mono (h : ∀ e, P e → Q e) (ha : a.FailsIn filters P) : a.FailsIn filters Q :=
  fun c hc => ⟨(ha c hc).1.mono h, (ha c hc).2⟩

theorem failsIn_emit (output : String) : (emit output).FailsIn filters P :=
  fun _ hc => ⟨failsWith_ok _ _, hc⟩

theorem FailsIn.andThen (ha : a.FailsIn filters P) (hb : b.FailsIn filters P) :
    (a.andThen b).FailsIn filters P := by
  intro c hc
  obtain ⟨hfails, hd⟩ := ha c hc
  rw [Rendering.andThen]
  cases ha' : a c with
  | mk result d =>
    rw [ha'] at hfails hd
    cases result with
    | error e => exact ⟨failsWith_error (hfails e rfl), hd⟩
    | ok first =>
      obtain ⟨hfails', he⟩ := hb d hd
      simp only
      cases hb' : b d with
      | mk result d' =>
        rw [hb'] at hfails' he
        cases result with
        | error e => exact ⟨failsWith_error (hfails' e rfl), he⟩
        | ok second => exact ⟨failsWith_ok _ _, he⟩

theorem FailsIn.after {change : Context → Context}
    (hchange : ∀ c : Context, (change c).filters = c.filters) (ha : a.FailsIn filters P) :
    (after change a).FailsIn filters P :=
  fun c hc => ha (change c) ((hchange c).trans hc)

theorem FailsIn.inScope (ha : a.FailsIn filters P) : (inScope a).FailsIn filters P :=
  fun c hc => ha c.push hc

theorem FailsIn.bindTo {name : String} (ha : a.FailsIn filters P) :
    (bindTo name a).FailsIn filters P := by
  intro c hc
  obtain ⟨hfails, hd⟩ := ha c hc
  rw [Rendering.bindTo]
  cases ha' : a c with
  | mk result d =>
    rw [ha'] at hfails hd
    cases result with
    | error e => exact ⟨failsWith_error (hfails e rfl), hd⟩
    | ok output =>
      exact ⟨failsWith_ok _ _, Context.filters_set.trans hd⟩

theorem FailsIn.eachBehind {α : Type} {f : α → Rendering} {items : List α}
    (hf : ∀ x ∈ items, (f x).FailsIn filters P) (before : String) :
    (eachBehind f items before).FailsIn filters P := by
  induction items generalizing before with
  | nil => exact fun _ hc => ⟨failsWith_ok _ _, hc⟩
  | cons x rest ih =>
    intro c hc
    obtain ⟨hfails, hd⟩ := hf x List.mem_cons_self c hc
    rw [Rendering.eachBehind]
    cases hfx : f x c with
    | mk result d =>
      rw [hfx] at hfails hd
      cases result with
      | error e => exact ⟨failsWith_error (hfails e rfl), hd⟩
      | ok output => exact ih (fun y hy => hf y (List.mem_cons_of_mem x hy)) _ d hd

theorem FailsIn.each {α : Type} {f : α → Rendering} {items : List α}
    (hf : ∀ x ∈ items, (f x).FailsIn filters P) : (each f items).FailsIn filters P :=
  .eachBehind hf ""

theorem FailsIn.renderEach {reversed : Bool} {f : Value → Nat → Rendering} {items : LoopItems}
    (hf : ∀ v i, (f v i).FailsIn filters P) : (items.renderEach reversed f).FailsIn filters P := by
  rw [LoopItems.renderEach_eq_each]
  exact .each fun item _ => hf item.1 item.2

end Rendering

/-! ### Nodes -/

/-- The filters that a node calls, those in its bodies apart. -/
def Node.calls : Node → List FilterCall
  | .output pipeline | .assign _ pipeline => pipeline.filters
  | _ => []

/-- A filter of that name is called in the node, or somewhere in its bodies. -/
inductive Node.Calls (name : String) : Node → Prop where
  /-- The node calls it. -/
  | here {node : Node} {call : FilterCall} (hcall : call ∈ node.calls) (hname : call.name = name) :
    Calls name node
  /-- A node of a body does. -/
  | inside {node child : Node} (hchild : child ∈ node.children) (h : child.Calls name) :
    Calls name node

/-- A filter of that name is called somewhere in the template. -/
def Template.Calls (template : Template) (name : String) : Prop :=
  ∃ node ∈ template.nodes, node.Calls name

theorem Pipeline.evaluate_failsWith (pipeline : Pipeline) (c : Context) {called : String → Prop}
    (hcalled : ∀ call ∈ pipeline.filters, called call.name) :
    FailsWith (c.filters.Raises called) (pipeline.evaluate c) := by
  have hall : ∀ (calls : List FilterCall) (v : Value), (∀ call ∈ calls, called call.name) →
      FailsWith (c.filters.Raises called) (applyAll c calls v) := by
    intro calls
    induction calls with
    | nil => exact fun v _ => failsWith_ok _ v
    | cons call rest ih =>
      intro v hcalls
      rw [List.forall_mem_cons] at hcalls
      exact (FilterRegistry.apply_failsWith _ hcalls.1 _ _).bind fun v' => ih v' hcalls.2
  exact hall pipeline.filters _ hcalled

section

variable {filters : FilterRegistry} {P : Error → Prop}

theorem renderAll_failsIn {nodes : List Node} (h : ∀ node ∈ nodes, node.render.FailsIn filters P) :
    (renderAll nodes).FailsIn filters P := by
  induction nodes with
  | nil => exact failsIn_emit ""
  | cons node rest ih =>
    rw [renderAll]
    exact (h node List.mem_cons_self).andThen (ih fun n hn => h n (List.mem_cons_of_mem node hn))

theorem renderBranches_failsIn (negated : Bool) {otherwise : Rendering}
    (ho : otherwise.FailsIn filters P) {branches : List (Condition × List Node)}
    (h : ∀ branch ∈ branches, (renderAll branch.2).FailsIn filters P) :
    (renderBranches negated otherwise branches).FailsIn filters P := by
  induction branches generalizing negated with
  | nil => exact ho
  | cons branch rest ih =>
    intro c hc
    rw [renderBranches]
    simp only
    split
    · exact (h branch List.mem_cons_self).inScope c hc
    · exact ih false (fun b hb => h b (List.mem_cons_of_mem branch hb)) c hc

theorem renderClauses_failsIn (subject : Value) {otherwise : Rendering}
    (ho : otherwise.FailsIn filters P) (rendered : Bool)
    {clauses : List (List Expression × List Node)}
    (h : ∀ clause ∈ clauses, (renderAll clause.2).FailsIn filters P) :
    (renderClauses subject otherwise rendered clauses).FailsIn filters P := by
  induction clauses generalizing rendered with
  | nil =>
    rw [renderClauses]
    split
    · exact failsIn_emit ""
    · exact ho
  | cons clause rest ih =>
    have hrest : ∀ rendered, (renderClauses subject otherwise rendered rest).FailsIn filters P :=
      fun rendered => ih rendered fun clause' hc => h clause' (List.mem_cons_of_mem clause hc)
    intro c hc
    rw [renderClauses]
    simp only
    split
    · exact (h clause List.mem_cons_self).inScope.andThen (hrest true) c hc
    · exact hrest rendered c hc

/-- A node that is no registered tag fails in the filters that it calls only, if this is so of the
nodes inside. -/
theorem Node.failsIn_of_makes {d : Dialect} (htags : d.tags = []) {node : Node}
    (hmakes : d.Makes node)
    (hchildren : ∀ child ∈ node.children,
      child.render.FailsIn filters (filters.Raises (Node.Calls · child))) :
    node.render.FailsIn filters (filters.Raises (Node.Calls · node)) := by
  have hbody : ∀ {nodes : List Node}, nodes ⊆ node.children →
      (renderAll nodes).FailsIn filters (filters.Raises (Node.Calls · node)) := by
    refine fun hsub => renderAll_failsIn fun child hchild => ?_
    refine (hchildren child (hsub hchild)).mono fun e he => he.mono fun name hname => ?_
    exact .inside (hsub hchild) hname
  cases node with
  | text text => exact failsIn_emit text
  | comment => exact failsIn_emit ""
  | raw text => exact failsIn_emit text
  | output pipeline =>
    intro c hc
    have hfails : FailsWith (c.filters.Raises (Node.Calls · (.output pipeline)))
        (pipeline.evaluate c) := pipeline.evaluate_failsWith c fun _ hcall => .here hcall rfl
    rw [Node.render]
    simp only
    cases hv : pipeline.evaluate c with
    | ok v => exact ⟨failsWith_ok _ _, hc⟩
    | error e => exact ⟨failsWith_error (hc ▸ hfails e hv), hc⟩
  | assign name pipeline =>
    intro c hc
    have hfails : FailsWith (c.filters.Raises (Node.Calls · (.assign name pipeline)))
        (pipeline.evaluate c) := pipeline.evaluate_failsWith c fun _ hcall => .here hcall rfl
    rw [Node.render]
    simp only
    cases hv : pipeline.evaluate c with
    | ok v => exact ⟨failsWith_ok _ _, Context.filters_set.trans hc⟩
    | error e => exact ⟨failsWith_error (hc ▸ hfails e hv), hc⟩
  | capture name body =>
    rw [Node.render]
    exact (hbody (List.Subset.refl _)).inScope.bindTo
  | cycle cycle =>
    intro c hc
    rw [Node.render]
    exact ⟨failsWith_ok _ _, hc⟩
  | loop header body otherwise =>
    intro c hc
    rw [Node.render]
    simp only
    split
    · exact (hbody (List.subset_append_right _ _)).inScope c hc
    · refine FailsIn.inScope (.renderEach fun v i => ?_) _ hc
      exact .after (fun d => (changesOnly_bindIteration _ _ _ _ d).filters)
        (hbody (List.subset_append_left _ _))
  | branch negated branches otherwise =>
    rw [Node.render]
    refine renderBranches_failsIn negated (hbody (List.subset_append_right _ _)).inScope ?_
    intro branch hbranch
    refine hbody fun child hchild => List.mem_append_left _ ?_
    exact List.mem_flatMap.2 ⟨branch, hbranch, hchild⟩
  | case subject clauses otherwise =>
    intro c hc
    rw [Node.render]
    refine renderClauses_failsIn _ (hbody (List.subset_append_right _ _)).inScope false ?_ c hc
    intro clause hclause
    refine hbody fun child hchild => List.mem_append_left _ ?_
    exact List.mem_flatMap.2 ⟨clause, hclause, hchild⟩
  | inclusion header body =>
    intro c hc
    rw [Node.render]
    refine FailsIn.inScope (.after (fun d => (Context.changesOnly_merge _ d).filters) ?_) c hc
    exact .each fun v _ => .after (fun _ => Context.filters_set) (hbody (List.Subset.refl _))
  | table header body =>
    intro c hc
    rw [Node.render]
    simp only
    split
    · exact ⟨failsWith_ok _ _, hc⟩
    · refine FailsIn.inScope ?_ c hc
      refine (failsIn_emit _).andThen (.andThen (.renderEach fun v i => ?_) (failsIn_emit _))
      refine .after (fun d => (changesOnly_bindIteration _ _ _ _ d).filters) ?_
      refine (failsIn_emit _).andThen ?_
      exact (hbody (List.Subset.refl _)).andThen (failsIn_emit _)
  | host => exact (hmakes htags).elim

end

/-! ### Templates -/

/-- Without registered tags, all that a source compiles to fails in the filters that it calls only.
The induction is on the depth that is left for includes. -/
theorem Engine.failsIn_of_compile {engine : Engine} (htags : engine.tags = []) {depth : Nat}
    {source : String} {template : Template}
    (h : engine.compile depth source = .ok template.nodes) (filters : FilterRegistry) :
    template.render.FailsIn filters (filters.Raises template.Calls) := by
  have hnodes : ∀ {nodes : List Node}, engine.compile depth source = .ok nodes →
      ∀ node ∈ nodes, node.render.FailsIn filters (filters.Raises (Node.Calls · node)) := by
    clear h
    induction depth generalizing source with
    | zero =>
      intro nodes h
      rw [compile_eq] at h
      refine Template.forall_of_parseTokens (fun node => Node.failsIn_of_makes htags) ?_ h
      intro name nodes hload
      cases hload
    | succ depth ih =>
      intro nodes h
      rw [compile_eq] at h
      refine Template.forall_of_parseTokens (fun node => Node.failsIn_of_makes htags) ?_ h
      intro name nodes hload
      obtain ⟨text, -, hcompile⟩ := bind_eq_ok_iff.1 hload
      exact ih hcompile
  refine renderAll_failsIn fun node hnode => ?_
  refine (hnodes h node hnode).mono fun e he => he.mono fun name hname => ?_
  exact ⟨node, hnode, hname⟩

end Liquid
