import Liquid.Proofs.Loop.Runs

/-!
# Rendering tags of any kind

What a registered tag does is told by its action, which leaves alone what has been put out in front
of it. A host that renders its tags by itself is given that text and the context, and may do with
both what it likes.

- `Writing`: rendering that goes on from a text. `Writing.toRendering` begins without one.
- `HostRenderer`: how a host renders its tags. The bodies are given as writings, which it may have
  go on from the same text or from one of their own.
- `Node.write`, `writeAll`, `Template.renderBy`: rendering with such tags.
- `Writing.Appends`, `HostRenderer.Appends`: the text in front stays as it is, and what is put
  behind it does not depend on it.
- `Node.write_appends`: with such tags, this holds of all nodes.
- `Node.toRendering_write`, `Template.renderBy_registered`: so it is with tags that do what their
  actions say, and templates with them are rendered as by `Template.render`.
-/

namespace Liquid

open Rendering

/-- From a text and a context to what comes of them, and an error if it fails. -/
abbrev Writing := String → Context → Except Error Unit × String × Context

namespace Writing

/-- Begins without text. In the end, the text is the output. -/
def toRendering (w : Writing) : Rendering := fun c =>
  match w "" c with
  | (.ok _, text, c) => (.ok text, c)
  | (.error e, _, c) => (.error e, c)

/-- Puts the output behind the text. -/
def ofRendering (a : Rendering) : Writing := fun text c =>
  match a c with
  | (.ok output, c) => (.ok (), text ++ output, c)
  | (.error e, c) => (.error e, text, c)

/-- Goes on where another writing has come to, unless that fails. -/
def andThen (v w : Writing) : Writing := fun text c =>
  match v text c with
  | (.ok _, text, c) => w text c
  | (.error e, text, c) => (.error e, text, c)

/-- Changes the context first. -/
def after (change : Context → Context) (w : Writing) : Writing := fun text c => w text (change c)

/-- Goes on in a new scope, and ends that scope. -/
def inScope (w : Writing) : Writing := fun text c =>
  let result := w text c.push
  (result.1, result.2.1, result.2.2.leave)

/-- Goes on for every item in turn. -/
def each {α : Type} (f : α → Writing) : List α → Writing
  | [] => ofRendering (emit "")
  | x :: rest => (f x).andThen (each f rest)

end Writing

/-- How a host renders a tag, given its name, its action, its arguments and its bodies. -/
abbrev HostRenderer := String → TagAction → List Expression → List Writing → Writing

/-- The tags do what their actions say. Their bodies are rendered into a text of their own. -/
def HostRenderer.registered : HostRenderer := fun _ action arguments bodies =>
  .ofRendering fun c => action.run (arguments.map (·.evaluate c))
    (fun i => (bodies.getD i (.ofRendering (emit ""))).toRendering) c

mutual

/-- Renders a node behind a text. A `capture` has a text of its own. -/
def Node.write (host : HostRenderer) : Node → Writing
  | .text text => .ofRendering (Node.text text).render
  | .output pipeline => .ofRendering (Node.output pipeline).render
  | .assign name pipeline => .ofRendering (Node.assign name pipeline).render
  | .comment => .ofRendering Node.comment.render
  | .raw text => .ofRendering (Node.raw text).render
  | .cycle cycle => .ofRendering (Node.cycle cycle).render
  | .capture name body => .ofRendering (bindTo name (inScope (writeAll host body).toRendering))
  | .loop header body otherwise => fun text c =>
    let run : LoopRun := ⟨header, c⟩
    if run.items.length = 0 then (writeAll host otherwise).inScope text c
    else (Writing.each (fun item => .after (run.bind item) (writeAll host body))
      (run.part.values header.reversed).zipIdx).inScope text run.marked
  | .branch negated branches otherwise =>
    writeBranches host negated (writeAll host otherwise).inScope branches
  | .case subject clauses otherwise => fun text c =>
    writeClauses host (subject.evaluate c) (writeAll host otherwise).inScope false clauses text c
  | .inclusion header body => fun text c =>
    Writing.inScope (.after (Context.merge (header.attributeValues c))
      (.each (fun v => .after (Context.set header.bindName v) (writeAll host body))
        (header.bindings c))) text c
  | .table header body => fun text c =>
    let part := (header.items c).segment (header.offset c) (header.limit? c)
    let length := part.length
    if length = 0 then (.ok (), text, c)
    else
      let columns := (header.columns? c).getD length
      Writing.inScope ((Writing.ofRendering (emit Table.opening)).andThen
        ((Writing.each (fun item : Value × Nat =>
            .after (bindIteration header.itemName "tablerowloop" item.1
                (Table.metadata header.name columns item.2 length))
              ((Writing.ofRendering (emit (Table.cellOpening columns item.2))).andThen
                ((writeAll host body).andThen
                  (.ofRendering (emit (Table.cellClosing columns item.2 length))))))
          (part.values false).zipIdx).andThen (.ofRendering (emit Table.closing)))) text c
  | .host name action arguments bodies => host name action arguments (writeBodies host bodies)

/-- Renders nodes behind a text, one after the other. -/
def writeAll (host : HostRenderer) : List Node → Writing
  | [] => .ofRendering (emit "")
  | node :: rest => (node.write host).andThen (writeAll host rest)

/-- The bodies of a tag of the host. -/
def writeBodies (host : HostRenderer) : List (List Node) → List Writing
  | [] => []
  | body :: rest => writeAll host body :: writeBodies host rest

/-- Renders the first branch whose condition holds. -/
def writeBranches (host : HostRenderer) (negated : Bool) (otherwise : Writing) :
    List (Condition × List Node) → Writing
  | [] => otherwise
  | (condition, body) :: rest => fun text c =>
    if condition.evaluate c != negated then (writeAll host body).inScope text c
    else writeBranches host false otherwise rest text c

/-- Renders every clause with a value that equals the subject. -/
def writeClauses (host : HostRenderer) (subject : Value) (otherwise : Writing) (rendered : Bool) :
    List (List Expression × List Node) → Writing
  | [] => if rendered then .ofRendering (emit "") else otherwise
  | (values, body) :: rest => fun text c =>
    if matchesSubject subject values c then
      ((writeAll host body).inScope.andThen (writeClauses host subject otherwise true rest)) text c
    else writeClauses host subject otherwise rendered rest text c

end

/-- Renders a template whose tags are rendered by a host. -/
def Template.renderBy (host : HostRenderer) (template : Template) : Rendering :=
  (writeAll host template.nodes).toRendering

/-! ### In sequence -/

namespace Writing

theorem ofRendering_emit_andThen (w : Writing) : (ofRendering (emit "")).andThen w = w := by
  funext text c
  show w (text ++ "") c = w text c
  rw [String.append_empty]

theorem andThen_ofRendering_emit (w : Writing) : w.andThen (ofRendering (emit "")) = w := by
  funext text c
  simp only [andThen]
  rcases w text c with ⟨e | _, text', c'⟩
  · rfl
  · show (Except.ok (), text' ++ "", c') = _
    rw [String.append_empty]

theorem andThen_congr {v v' w w' : Writing} {text : String} {c : Context}
    (hv : v text c = v' text c)
    (hw : w (v text c).2.1 (v text c).2.2 = w' (v text c).2.1 (v text c).2.2) :
    v.andThen w text c = v'.andThen w' text c := by
  rw [andThen, andThen, ← hv]
  rcases hresult : v text c with ⟨e | _, text', c'⟩
  · rfl
  · rwa [hresult] at hw

theorem andThen_assoc (u v w : Writing) : (u.andThen v).andThen w = u.andThen (v.andThen w) := by
  funext text c
  simp only [andThen]
  rcases u text c with ⟨e | _, text', c'⟩ <;> rfl

theorem ofRendering_emit_append (x y : String) :
    ofRendering (emit (x ++ y)) = (ofRendering (emit x)).andThen (ofRendering (emit y)) := by
  funext text c
  show (_, text ++ (x ++ y), _) = (_, text ++ x ++ y, _)
  rw [String.append_assoc]

end Writing

/-- Nodes that are a single one are rendered as that node. -/
theorem writeAll_singleton (host : HostRenderer) (node : Node) :
    writeAll host [node] = node.write host := by
  rw [writeAll, writeAll, Writing.andThen_ofRendering_emit]

/-- Nodes behind other nodes are rendered behind them. -/
theorem writeAll_append (host : HostRenderer) (front back : List Node) :
    writeAll host (front ++ back) = (writeAll host front).andThen (writeAll host back) := by
  induction front with
  | nil => rw [List.nil_append, writeAll, Writing.ofRendering_emit_andThen]
  | cons node rest ih => rw [List.cons_append, writeAll, writeAll, ih, Writing.andThen_assoc]

/-! ### Text that stays -/

namespace Writing

/-- What has been put out in front stays, and nothing depends on it. -/
def Appends (w : Writing) : Prop :=
  ∀ text c, w text c = ((w "" c).1, text ++ (w "" c).2.1, (w "" c).2.2)

variable {v w : Writing}

theorem appends_ofRendering (a : Rendering) : (ofRendering a).Appends := by
  intro text c
  simp only [ofRendering]
  rcases a c with ⟨e | output, c'⟩
  · simp only [String.append_empty]
  · simp only [String.empty_append]

theorem Appends.andThen (hv : v.Appends) (hw : w.Appends) : (v.andThen w).Appends := by
  intro text c
  simp only [Writing.andThen]
  rw [hv text c]
  rcases v "" c with ⟨e | _, front, c'⟩
  · rfl
  · simp only
    rw [hw (text ++ front), hw front, String.append_assoc]

theorem Appends.after (hw : w.Appends) (change : Context → Context) : (after change w).Appends :=
  fun text c => hw text (change c)

theorem Appends.inScope (hw : w.Appends) : w.inScope.Appends := by
  intro text c
  simp only [Writing.inScope]
  rw [hw text c.push]

theorem Appends.each {α : Type} {f : α → Writing} (hf : ∀ x, (f x).Appends) (items : List α) :
    (each f items).Appends := by
  induction items with
  | nil => exact appends_ofRendering _
  | cons x rest ih => exact (hf x).andThen ih

end Writing

open Writing (appends_ofRendering)

/-- The tags of the host leave alone what is in front of them, as long as their bodies do. -/
def HostRenderer.Appends (host : HostRenderer) : Prop :=
  ∀ name action arguments bodies, (∀ body ∈ bodies, Writing.Appends body) →
    (host name action arguments bodies).Appends

theorem HostRenderer.registered_appends : registered.Appends :=
  fun _ _ _ _ _ => appends_ofRendering _

section

variable {host : HostRenderer}

mutual

theorem Node.write_appends (hhost : host.Appends) : (node : Node) → (node.write host).Appends
  | .text _ | .output _ | .assign .. | .comment | .raw _ | .cycle _ | .capture .. => by
    rw [Node.write]
    exact appends_ofRendering _
  | .loop header body otherwise => by
    intro text c
    rw [Node.write]
    simp only
    split
    · exact (writeAll_appends hhost otherwise).inScope text c
    · exact (Writing.Appends.each (fun _ => (writeAll_appends hhost body).after _) _).inScope text _
  | .branch negated branches otherwise => by
    rw [Node.write]
    exact writeBranches_appends hhost negated (writeAll_appends hhost otherwise).inScope branches
  | .case subject clauses otherwise => by
    intro text c
    rw [Node.write]
    have hotherwise := (writeAll_appends hhost otherwise).inScope
    exact writeClauses_appends hhost _ hotherwise false clauses text c
  | .inclusion header body => by
    intro text c
    rw [Node.write]
    have hitem := writeAll_appends hhost body
    exact ((Writing.Appends.each (fun _ => hitem.after _) _).after _).inScope text c
  | .table header body => by
    intro text c
    rw [Node.write]
    simp only
    split
    · rw [String.append_empty]
    · refine Writing.Appends.inScope ((appends_ofRendering _).andThen (.andThen (.each (fun item =>
        ?_) _) (appends_ofRendering _))) text c
      refine Writing.Appends.after ((appends_ofRendering _).andThen (.andThen ?_
        (appends_ofRendering _))) _
      exact writeAll_appends hhost body
  | .host name action arguments bodies => by
    rw [Node.write]
    exact hhost name action arguments _ (writeBodies_appends hhost bodies)

theorem writeAll_appends (hhost : host.Appends) : (nodes : List Node) →
    (writeAll host nodes).Appends
  | [] => by
    rw [writeAll]
    exact appends_ofRendering _
  | node :: rest => by
    rw [writeAll]
    exact (node.write_appends hhost).andThen (writeAll_appends hhost rest)

theorem writeBodies_appends (hhost : host.Appends) : (bodies : List (List Node)) →
    ∀ body ∈ writeBodies host bodies, Writing.Appends body
  | [] => by
    rw [writeBodies]
    exact fun _ h => (List.not_mem_nil h).elim
  | body :: rest => by
    rw [writeBodies]
    exact List.forall_mem_cons.2 ⟨writeAll_appends hhost body, writeBodies_appends hhost rest⟩

theorem writeBranches_appends (hhost : host.Appends) (negated : Bool) {otherwise : Writing}
    (ho : otherwise.Appends) :
    (branches : List (Condition × List Node)) →
      (writeBranches host negated otherwise branches).Appends
  | [] => by
    rw [writeBranches]
    exact ho
  | (condition, body) :: rest => by
    intro text c
    rw [writeBranches]
    simp only
    split
    · exact (writeAll_appends hhost body).inScope text c
    · exact writeBranches_appends hhost false ho rest text c

theorem writeClauses_appends (hhost : host.Appends) (subject : Value) {otherwise : Writing}
    (ho : otherwise.Appends) (rendered : Bool) : (clauses : List (List Expression × List Node)) →
      (writeClauses host subject otherwise rendered clauses).Appends
  | [] => by
    rw [writeClauses]
    split
    · exact appends_ofRendering _
    · exact ho
  | (values, body) :: rest => by
    intro text c
    rw [writeClauses]
    simp only
    split
    · exact (writeAll_appends hhost body).inScope.andThen
        (writeClauses_appends hhost subject ho true rest) text c
    · exact writeClauses_appends hhost subject ho rendered rest text c

end

end

/-! ### Output of their own -/

namespace Writing

variable {v w : Writing}

theorem toRendering_congr {c : Context} (h : v "" c = w "" c) :
    v.toRendering c = w.toRendering c := by
  rw [toRendering, toRendering, h]

theorem toRendering_ofRendering (a : Rendering) : (ofRendering a).toRendering = a := by
  funext c
  simp only [toRendering, ofRendering]
  rcases a c with ⟨e | output, c'⟩
  · rfl
  · simp only [String.empty_append]

theorem toRendering_andThen (hw : w.Appends) :
    (v.andThen w).toRendering = v.toRendering.andThen w.toRendering := by
  funext c
  simp only [toRendering, andThen, Rendering.andThen]
  rcases v "" c with ⟨e | _, front, c'⟩
  · rfl
  · simp only
    rw [hw front c']
    rcases w "" c' with ⟨e | _, back, c''⟩ <;> rfl

theorem toRendering_after (change : Context → Context) (w : Writing) :
    (after change w).toRendering = Rendering.after change w.toRendering := rfl

theorem toRendering_inScope (w : Writing) :
    w.inScope.toRendering = Rendering.inScope w.toRendering := by
  funext c
  simp only [toRendering, inScope, Rendering.inScope]
  rcases w "" c.push with ⟨e | _, text, c'⟩ <;> rfl

/-- What is put out for the items so far is the text from which the next ones go on. -/
theorem eachBehind_toRendering {α : Type} {f : α → Writing} (hf : ∀ x, (f x).Appends)
    (items : List α) (before : String) (c : Context) :
    eachBehind (fun x => (f x).toRendering) items before c =
      match each f items before c with
      | (.ok _, text, c) => (.ok text, c)
      | (.error e, _, c) => (.error e, c) := by
  induction items generalizing before c with
  | nil =>
    show _ = (Except.ok (before ++ ""), c)
    rw [String.append_empty]
    rfl
  | cons x rest ih =>
    rw [eachBehind, each, toRendering, andThen, hf x before c]
    rcases f x "" c with ⟨e | _, text, c'⟩
    · rfl
    · exact ih (before ++ text) c'

theorem toRendering_each {α : Type} {f : α → Writing} (hf : ∀ x, (f x).Appends)
    (items : List α) :
    (each f items).toRendering = Rendering.each (fun x => (f x).toRendering) items :=
  funext fun c => (eachBehind_toRendering hf items "" c).symm

end Writing

open Writing (toRendering_ofRendering toRendering_andThen toRendering_inScope toRendering_each)

/-- Bodies leave alone what is in front of them. -/
theorem writeAll_registered_appends (nodes : List Node) : (writeAll .registered nodes).Appends :=
  writeAll_appends HostRenderer.registered_appends nodes

mutual

theorem Node.toRendering_write : (node : Node) → (node.write .registered).toRendering = node.render
  | .text _ | .output _ | .assign .. | .comment | .raw _ | .cycle _ => by
    rw [Node.write, toRendering_ofRendering]
  | .capture name body => by
    rw [Node.write, toRendering_ofRendering, toRendering_writeAll body, Node.render]
  | .loop header body otherwise => by
    funext c
    rw [Writing.toRendering, Node.write]
    by_cases hitems : (LoopRun.items ⟨header, c⟩).length = 0
    · have hlength : (header.items c).length = 0 := hitems
      rw [Node.render]
      simp only [if_pos hitems, if_pos hlength]
      show (writeAll .registered otherwise).inScope.toRendering c = _
      rw [toRendering_inScope, toRendering_writeAll otherwise]
    · rw [LoopRun.render_eq ⟨header, c⟩ body otherwise hitems]
      simp only [if_neg hitems]
      show (Writing.inScope _).toRendering (LoopRun.marked ⟨header, c⟩) = _
      rw [toRendering_inScope, toRendering_each fun _ => (writeAll_registered_appends body).after _]
      simp only [Writing.toRendering_after, toRendering_writeAll body]
  | .branch negated branches otherwise => by
    rw [Node.write, Node.render, toRendering_writeBranches negated _ branches,
      toRendering_inScope, toRendering_writeAll otherwise]
  | .case subject clauses otherwise => by
    funext c
    have hclauses := toRendering_writeClauses (subject.evaluate c)
      (writeAll_registered_appends otherwise).inScope false clauses
    rw [toRendering_inScope, toRendering_writeAll otherwise] at hclauses
    rw [Writing.toRendering, Node.write, Node.render]
    exact congrFun hclauses c
  | .inclusion header body => by
    funext c
    rw [Writing.toRendering, Node.write, Node.render]
    show (Writing.inScope _).toRendering c = _
    rw [toRendering_inScope, Writing.toRendering_after,
      toRendering_each fun _ => (writeAll_registered_appends body).after _]
    simp only [Writing.toRendering_after, toRendering_writeAll body]
  | .table header body => by
    funext c
    rw [Writing.toRendering, Node.write, Node.render]
    by_cases hlength :
        ((header.items c).segment (header.offset c) (header.limit? c)).length = 0
    · simp only [if_pos hlength]
    · have hcell (opening closing : String) (change : Context → Context) :
          (Writing.after change ((Writing.ofRendering (emit opening)).andThen
            ((writeAll .registered body).andThen (.ofRendering (emit closing))))).Appends :=
        ((appends_ofRendering _).andThen
          ((writeAll_registered_appends body).andThen (appends_ofRendering _))).after _
      simp only [if_neg hlength]
      show (Writing.inScope _).toRendering c = _
      rw [toRendering_inScope, toRendering_andThen (.andThen (.each (fun _ => hcell _ _ _) _)
          (appends_ofRendering _)), toRendering_andThen (appends_ofRendering _),
        toRendering_each fun _ => hcell _ _ _, LoopItems.renderEach_eq_each]
      simp only [Writing.toRendering_after, toRendering_ofRendering, toRendering_writeAll body,
        toRendering_andThen (appends_ofRendering _),
        toRendering_andThen ((writeAll_registered_appends body).andThen (appends_ofRendering _))]
  | .host name action arguments bodies => by
    rw [Node.write, HostRenderer.registered, toRendering_ofRendering, Node.render]
    funext c
    congr 1
    exact toRendering_writeBodies bodies

theorem toRendering_writeAll : (nodes : List Node) →
    (writeAll .registered nodes).toRendering = renderAll nodes
  | [] => by rw [writeAll, toRendering_ofRendering, renderAll]
  | node :: rest => by
    rw [writeAll, toRendering_andThen (writeAll_registered_appends rest),
      node.toRendering_write, toRendering_writeAll rest, renderAll]

theorem toRendering_writeBodies : (bodies : List (List Node)) →
    (fun i => ((writeBodies .registered bodies).getD i (.ofRendering (emit ""))).toRendering) =
      renderBody bodies
  | [] => by
    funext i
    rw [writeBodies, List.getD_nil, toRendering_ofRendering, renderBody]
  | body :: rest => by
    funext i
    rw [writeBodies]
    cases i with
    | zero => rw [List.getD_cons_zero, toRendering_writeAll body, renderBody]
    | succ i =>
      rw [List.getD_cons_succ, renderBody]
      exact congrFun (toRendering_writeBodies rest) i

theorem toRendering_writeBranches (negated : Bool) (otherwise : Writing) :
    (branches : List (Condition × List Node)) →
      (writeBranches .registered negated otherwise branches).toRendering =
        renderBranches negated otherwise.toRendering branches
  | [] => by rw [writeBranches, renderBranches]
  | (condition, body) :: rest => by
    funext c
    rw [Writing.toRendering, writeBranches, renderBranches]
    by_cases hholds : (condition.evaluate c != negated) = true
    · simp only [if_pos hholds]
      show (writeAll .registered body).inScope.toRendering c = _
      rw [toRendering_inScope, toRendering_writeAll body]
    · simp only [if_neg hholds]
      exact congrFun (toRendering_writeBranches false otherwise rest) c

theorem toRendering_writeClauses (subject : Value) {otherwise : Writing} (ho : otherwise.Appends)
    (rendered : Bool) : (clauses : List (List Expression × List Node)) →
      (writeClauses .registered subject otherwise rendered clauses).toRendering =
        renderClauses subject otherwise.toRendering rendered clauses
  | [] => by
    rw [writeClauses, renderClauses]
    split
    · exact toRendering_ofRendering _
    · rfl
  | (values, body) :: rest => by
    funext c
    rw [Writing.toRendering, writeClauses, renderClauses]
    by_cases hmatches : matchesSubject subject values c = true
    · simp only [if_pos hmatches]
      show ((writeAll .registered body).inScope.andThen _).toRendering c = _
      rw [toRendering_andThen ?_, toRendering_inScope, toRendering_writeAll body,
        toRendering_writeClauses subject ho true rest]
      exact writeClauses_appends HostRenderer.registered_appends _ ho true rest
    · simp only [if_neg hmatches]
      exact congrFun (toRendering_writeClauses subject ho rendered rest) c

end

/-- With tags that do what their actions say, a template is rendered as it is without a host. -/
theorem Template.renderBy_registered (template : Template) :
    template.renderBy .registered = template.render :=
  toRendering_writeAll template.nodes

end Liquid
