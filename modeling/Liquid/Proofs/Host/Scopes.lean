import Liquid.Proofs.Context.Binding
import Liquid.Proofs.Host.Rendering
import Liquid.Proofs.Render.EmptyScopes

/-!
# Tags of a host and the context around them

A tag that a host renders by itself is given the whole context. What holds of the tags of
`Node.render` whatever they are, that they leave the scopes around them alone and do not tell alike
contexts apart, is then up to the host.

- `Writing.Leads`, `HostRenderer.Leads`, `writeAll_leads`: the contexts in front of nodes and behind
  them are in a relation that built-in tags do not break, as long as the tags of the host do not.
- `Writing.Respects`, `HostRenderer.Respects`, `writeAll_respects`: nodes do not tell apart what
  expressions do not, as long as the tags of the host do not.
- `HostRenderer.registered_keepsOuter`, `HostRenderer.registered_respects`: so it is with tags that
  do what their actions say.
- `HostRenderer.IgnoresEmptyScopes`, `inScope_inScope_writeAll`: a second scope around a body is one
  too many.
-/

namespace Liquid

open Rendering

/-! ### What stays -/

theorem Context.Frame.emit {Q : Context → Context → Prop} (hQ : Frame Q) (output : String) :
    (Rendering.emit output).Leads Q :=
  hQ.refl

/-- The filters stay. -/
theorem Context.frame_filters : Frame fun c d => d.filters = c.filters where
  refl _ := rfl
  trans h h' := h'.trans h
  set _ _ _ := filters_set
  setRegisterEntry _ _ _ _ := rfl
  leave h := h

namespace Writing

/-- The context behind a writing is related to that in front of it. -/
def Leads (Q : Context → Context → Prop) (w : Writing) : Prop := ∀ text c, Q c (w text c).2.2

/-- The scopes around the innermost one and the attributes stay. -/
abbrev KeepsOuter (w : Writing) : Prop := w.Leads Context.KeepsOuter

variable {Q : Context → Context → Prop} {v w : Writing}

theorem Leads.ofRendering {a : Rendering} (ha : a.Leads Q) : (ofRendering a).Leads Q := by
  intro text c
  have hbehind := ha c
  rw [Writing.ofRendering]
  rcases hc : a c with ⟨e | output, c'⟩
  · rwa [hc] at hbehind
  · rwa [hc] at hbehind

theorem Leads.toRendering (hw : w.Leads Q) : w.toRendering.Leads Q := by
  intro c
  have hbehind := hw "" c
  rw [Writing.toRendering]
  rcases hc : w "" c with ⟨e | _, text, c'⟩
  · rwa [hc] at hbehind
  · rwa [hc] at hbehind

variable (hQ : Context.Frame Q)

include hQ

theorem Leads.andThen (hv : v.Leads Q) (hw : w.Leads Q) : (v.andThen w).Leads Q := by
  intro text c
  have hbehind := hv text c
  rw [Writing.andThen]
  rcases hc : v text c with ⟨e | _, text', c'⟩
  · rwa [hc] at hbehind
  · rw [hc] at hbehind
    exact hQ.trans hbehind (hw text' c')

theorem Leads.after {change : Context → Context} (hchange : ∀ c, Q c (change c))
    (hw : w.Leads Q) : (after change w).Leads Q :=
  fun text c => hQ.trans (hchange c) (hw text (change c))

theorem Leads.inScope (hw : w.Leads Q) : w.inScope.Leads Q :=
  fun text c => hQ.leave (hw text c.push)

theorem Leads.each {α : Type} {f : α → Writing} (hf : ∀ x, (f x).Leads Q) (items : List α) :
    (each f items).Leads Q := by
  induction items with
  | nil => exact .ofRendering (hQ.emit "")
  | cons x rest ih => exact .andThen hQ (hf x) ih

end Writing

/-- The tags of the host lead to related contexts, as long as their bodies do. -/
def HostRenderer.Leads (Q : Context → Context → Prop) (host : HostRenderer) : Prop :=
  ∀ name action arguments bodies, (∀ body ∈ bodies, Writing.Leads Q body) →
    (host name action arguments bodies).Leads Q

/-- The tags of the host leave the scopes around the innermost one alone, as long as their bodies
do. -/
abbrev HostRenderer.KeepsOuter (host : HostRenderer) : Prop := host.Leads Context.KeepsOuter

/-- The tags of the host leave the filters alone, as long as their bodies do. -/
abbrev HostRenderer.KeepsFilters (host : HostRenderer) : Prop :=
  host.Leads fun c d => d.filters = c.filters

section

variable {Q : Context → Context → Prop} {host : HostRenderer}

mutual

theorem Node.write_leads (hQ : Context.Frame Q) (hhost : host.Leads Q) :
    (node : Node) → (node.write host).Leads Q
  | .text _ | .comment | .raw _ => by
    rw [Node.write]
    exact .ofRendering hQ.refl
  | .output pipeline => by
    rw [Node.write]
    refine .ofRendering fun c => ?_
    rw [Node.render]
    dsimp only
    cases pipeline.evaluate c with
    | error e => exact hQ.refl c
    | ok v => exact hQ.refl c
  | .assign name pipeline => by
    rw [Node.write]
    refine .ofRendering fun c => ?_
    rw [Node.render]
    dsimp only
    cases pipeline.evaluate c with
    | error e => exact hQ.refl c
    | ok v => exact hQ.set name v c
  | .cycle cycle => by
    rw [Node.write]
    refine .ofRendering fun c => ?_
    rw [Node.render]
    exact hQ.setRegisterEntry _ _ _ c
  | .capture name body => by
    rw [Node.write]
    have hbody := (writeAll_leads hQ hhost body).toRendering
    exact .ofRendering (.bindTo hQ.trans (hQ.set name) fun c => hQ.leave (hbody c.push))
  | .loop header body otherwise => by
    have hbody := writeAll_leads hQ hhost body
    intro text c
    rw [Node.write]
    dsimp only
    split
    · exact (writeAll_leads hQ hhost otherwise).inScope hQ text c
    · refine hQ.trans (hQ.setRegisterEntry _ _ _ c)
        (Writing.Leads.inScope hQ (.each hQ (fun item => ?_) _) text _)
      exact .after hQ (hQ.bindIteration _ _ _ _) hbody
  | .branch negated branches otherwise => by
    rw [Node.write]
    have helse := (writeAll_leads hQ hhost otherwise).inScope hQ
    exact writeBranches_leads hQ hhost negated helse branches
  | .case subject clauses otherwise => by
    have helse := (writeAll_leads hQ hhost otherwise).inScope hQ
    intro text c
    rw [Node.write]
    exact writeClauses_leads hQ hhost _ helse false clauses text c
  | .inclusion header body => by
    have hbody := writeAll_leads hQ hhost body
    intro text c
    rw [Node.write]
    refine Writing.Leads.inScope hQ (.after hQ (hQ.merge _) (.each hQ (fun v => ?_) _)) text c
    exact .after hQ (hQ.set _ v) hbody
  | .table header body => by
    have hbody := writeAll_leads hQ hhost body
    have hemit (output : String) : (Writing.ofRendering (emit output)).Leads Q :=
      .ofRendering (hQ.emit output)
    intro text c
    rw [Node.write]
    dsimp only
    split
    · exact hQ.refl c
    · refine Writing.Leads.inScope hQ (.andThen hQ (hemit _) (.andThen hQ
        (.each hQ (fun item => ?_) _) (hemit _))) text c
      exact .after hQ (hQ.bindIteration _ _ _ _)
        (.andThen hQ (hemit _) (.andThen hQ hbody (hemit _)))
  | .host name action arguments bodies => by
    rw [Node.write]
    exact hhost name action arguments _ (writeBodies_leads hQ hhost bodies)

/-- Nodes lead to related contexts, if the tags of the host do. -/
theorem writeAll_leads (hQ : Context.Frame Q) (hhost : host.Leads Q) :
    (nodes : List Node) → (writeAll host nodes).Leads Q
  | [] => by
    rw [writeAll]
    exact .ofRendering (hQ.emit "")
  | node :: rest => by
    rw [writeAll]
    exact .andThen hQ (node.write_leads hQ hhost) (writeAll_leads hQ hhost rest)

theorem writeBodies_leads (hQ : Context.Frame Q) (hhost : host.Leads Q) :
    (bodies : List (List Node)) → ∀ body ∈ writeBodies host bodies, Writing.Leads Q body
  | [] => by
    rw [writeBodies]
    exact fun _ h => (List.not_mem_nil h).elim
  | body :: rest => by
    rw [writeBodies]
    have hbody := writeAll_leads hQ hhost body
    exact List.forall_mem_cons.2 ⟨hbody, writeBodies_leads hQ hhost rest⟩

theorem writeBranches_leads (hQ : Context.Frame Q) (hhost : host.Leads Q) (negated : Bool)
    {otherwise : Writing} (ho : otherwise.Leads Q) :
    (branches : List (Condition × List Node)) →
      (writeBranches host negated otherwise branches).Leads Q
  | [] => by
    rw [writeBranches]
    exact ho
  | (condition, body) :: rest => by
    intro text c
    rw [writeBranches]
    dsimp only
    split
    · exact (writeAll_leads hQ hhost body).inScope hQ text c
    · exact writeBranches_leads hQ hhost false ho rest text c

theorem writeClauses_leads (hQ : Context.Frame Q) (hhost : host.Leads Q) (subject : Value)
    {otherwise : Writing} (ho : otherwise.Leads Q) (rendered : Bool) :
    (clauses : List (List Expression × List Node)) →
      (writeClauses host subject otherwise rendered clauses).Leads Q
  | [] => by
    rw [writeClauses]
    split
    · exact .ofRendering (hQ.emit "")
    · exact ho
  | (values, body) :: rest => by
    intro text c
    rw [writeClauses]
    dsimp only
    split
    · exact Writing.Leads.andThen hQ ((writeAll_leads hQ hhost body).inScope hQ)
        (writeClauses_leads hQ hhost subject ho true rest) text c
    · exact writeClauses_leads hQ hhost subject ho rendered rest text c

end

end

/-! ### What is not told apart -/

/-- A relation between contexts in which all expressions have the same values, and that still holds
when both contexts are changed alike. -/
abbrev Context.TotalCongruence (R : Context → Context → Prop) : Prop :=
  ∀ es, Congruence es (fun _ => True) R

namespace Writing

/-- From related contexts come the same text, the same error if there is one, and related contexts
again. -/
def Respects (R : Context → Context → Prop) (w : Writing) : Prop :=
  ∀ (text : String) {c d : Context}, R c d →
    (w text c).1 = (w text d).1 ∧ (w text c).2.1 = (w text d).2.1 ∧ R (w text c).2.2 (w text d).2.2

variable {R : Context → Context → Prop} {v w : Writing}

theorem Respects.ofRendering {a : Rendering} (ha : a.Respects R) : (ofRendering a).Respects R := by
  intro text c d h
  obtain ⟨houtput, hafter⟩ := ha.run h
  rw [Writing.ofRendering, Writing.ofRendering]
  rcases hc : a c with ⟨result, c'⟩
  rcases hd : a d with ⟨result', d'⟩
  rw [hc, hd] at houtput hafter
  cases houtput
  cases result with
  | error e => exact ⟨rfl, rfl, hafter⟩
  | ok output => exact ⟨rfl, rfl, hafter⟩

theorem Respects.toRendering (hkeeps : w.KeepsOuter) (hw : w.Respects R) :
    w.toRendering.Respects R := by
  refine ⟨hkeeps.toRendering, fun {c d} h => ?_⟩
  obtain ⟨hresult, htext, hafter⟩ := hw "" h
  rw [Writing.toRendering, Writing.toRendering]
  rcases hc : w "" c with ⟨result, text, c'⟩
  rcases hd : w "" d with ⟨result', text', d'⟩
  rw [hc, hd] at hresult htext hafter
  cases hresult
  cases htext
  cases result with
  | error e => exact ⟨rfl, hafter⟩
  | ok _ => exact ⟨rfl, hafter⟩

theorem Respects.andThen (hv : v.Respects R) (hw : w.Respects R) : (v.andThen w).Respects R := by
  intro text c d h
  obtain ⟨hresult, htext, hafter⟩ := hv text h
  rw [Writing.andThen, Writing.andThen]
  rcases hc : v text c with ⟨result, text', c'⟩
  rcases hd : v text d with ⟨result', text'', d'⟩
  rw [hc, hd] at hresult htext hafter
  cases hresult
  cases htext
  cases result with
  | error e => exact ⟨rfl, rfl, hafter⟩
  | ok _ => exact hw text' hafter

theorem Respects.after {change : Context → Context}
    (hafter : ∀ {c d : Context}, R c d → R (change c) (change d)) (hw : w.Respects R) :
    (after change w).Respects R :=
  fun text _ _ h => hw text (hafter h)

theorem Respects.each {α : Type} {f : α → Writing} (hf : ∀ x, (f x).Respects R) (items : List α) :
    (each f items).Respects R := by
  induction items with
  | nil => exact .ofRendering (respects_emit R "")
  | cons x rest ih => exact (hf x).andThen ih

/-- What a body binds in a scope of its own is gone with the scope, in both contexts. -/
theorem Respects.inScope (hR : Context.TotalCongruence R) (hkeeps : w.KeepsOuter)
    (hw : w.Respects R) : w.inScope.Respects R := by
  intro text c d h
  obtain ⟨hresult, htext, hafter⟩ := hw text ((hR []).push h)
  exact ⟨hresult, htext, (hR []).leave h hafter (hkeeps text c.push).scopes_leave
    (hkeeps text d.push).scopes_leave⟩

end Writing

/-- The tags of the host do not tell related contexts apart, as long as their bodies do not. -/
def HostRenderer.Respects (R : Context → Context → Prop) (host : HostRenderer) : Prop :=
  ∀ name action arguments bodies,
    (∀ body ∈ bodies, Writing.KeepsOuter body ∧ Writing.Respects R body) →
      (host name action arguments bodies).Respects R

section

variable {R : Context → Context → Prop} {host : HostRenderer}

/-- Nodes in a scope of their own, where it is known of the nodes alone. -/
theorem Writing.Respects.inScope_writeAll (hR : Context.TotalCongruence R)
    (hkeeps : host.KeepsOuter) {nodes : List Node} (h : (writeAll host nodes).Respects R) :
    (writeAll host nodes).inScope.Respects R :=
  h.inScope hR (writeAll_leads Context.frame_keepsOuter hkeeps nodes)

mutual

theorem Node.write_respects (hR : Context.TotalCongruence R) (hkeeps : host.KeepsOuter)
    (hhost : host.Respects R) : (node : Node) → (node.write host).Respects R
  | .text _ | .output _ | .assign .. | .comment | .raw _ | .cycle _ => by
    rw [Node.write]
    exact .ofRendering ((hR _).node_respects _ (List.Subset.refl _))
  | .capture name body => by
    rw [Node.write]
    have hbody := (writeAll_respects hR hkeeps hhost body).toRendering
      (writeAll_leads Context.frame_keepsOuter hkeeps body)
    exact .ofRendering (.bindTo (hR []) name (.inScope (hR []) hbody))
  | .loop header body otherwise => by
    have hbody := writeAll_respects hR hkeeps hhost body
    have hbodyKeeps := writeAll_leads Context.frame_keepsOuter hkeeps body
    have hotherwise := (writeAll_respects hR hkeeps hhost otherwise).inScope_writeAll hR hkeeps
    have hrun (run : LoopRun) (items : List (Value × Nat)) :
        (Writing.inScope (.each (fun item => .after (run.bind item) (writeAll host body))
          items)).Respects R := by
      refine .inScope hR (.each Context.frame_keepsOuter (fun item => ?_) _)
        (.each (fun item => ?_) _)
      · exact .after Context.frame_keepsOuter (Context.frame_keepsOuter.bindIteration _ _ _ _) hbodyKeeps
      · exact .after (fun h => (hR []).bindIteration h _ _ trivial fun _ _ => trivial) hbody
    rw [Node.write]
    intro text c d h
    -- the runs go over the same items, and bind the same to them
    have hheader := List.Subset.refl header.expressions
    have hitems : LoopRun.items ⟨header, d⟩ = LoopRun.items ⟨header, c⟩ :=
      ((hR _).items_eq h hheader).symm
    have hstart : LoopRun.start ⟨header, d⟩ = LoopRun.start ⟨header, c⟩ :=
      ((hR _).offset_eq h hheader).symm
    have hpart : LoopRun.part ⟨header, d⟩ = LoopRun.part ⟨header, c⟩ := by
      have hlimit : LoopRun.limit? ⟨header, d⟩ = LoopRun.limit? ⟨header, c⟩ :=
        ((hR _).limit?_eq h hheader).symm
      rw [LoopRun.part, hitems, hstart, hlimit, LoopRun.part]
    have hbind : LoopRun.bind ⟨header, d⟩ = LoopRun.bind ⟨header, c⟩ := by
      funext item
      rw [LoopRun.bind, hpart, LoopRun.bind]
    have hmarked : R (LoopRun.marked ⟨header, c⟩) (LoopRun.marked ⟨header, d⟩) := by
      rw [LoopRun.marked, LoopRun.marked, LoopRun.bookmark, LoopRun.bookmark, hstart, hpart]
      exact (hR []).setRegisterEntry h _ _ _
    simp only [hitems, hpart, hbind]
    by_cases hempty : (LoopRun.items ⟨header, c⟩).length = 0
    · simp only [if_pos hempty]
      exact hotherwise text h
    · simp only [if_neg hempty]
      exact hrun _ _ text hmarked
  | .branch negated branches otherwise => by
    rw [Node.write]
    have helse := (writeAll_respects hR hkeeps hhost otherwise).inScope_writeAll hR hkeeps
    exact writeBranches_respects hR hkeeps hhost negated helse branches
  | .case subject clauses otherwise => by
    have helse := (writeAll_respects hR hkeeps hhost otherwise).inScope_writeAll hR hkeeps
    rw [Node.write]
    intro text c d h
    simp only [← (hR [subject]).evaluate_eq h (List.mem_singleton_self subject)]
    exact writeClauses_respects hR hkeeps hhost _ helse false clauses text h
  | .inclusion header body => by
    have hbody := writeAll_respects hR hkeeps hhost body
    have hbodyKeeps := writeAll_leads Context.frame_keepsOuter hkeeps body
    have hrun (attributes : List (String × Value)) (values : List Value) :
        (Writing.inScope (.after (Context.merge attributes)
          (.each (fun v => .after (Context.set header.bindName v) (writeAll host body))
            values))).Respects R := by
      refine .inScope hR (.after Context.frame_keepsOuter (Context.frame_keepsOuter.merge _)
        (.each Context.frame_keepsOuter (fun v => ?_) _))
        (.after (fun h => (hR []).merge h fun _ _ => trivial) (.each (fun v => ?_) _))
      · exact .after Context.frame_keepsOuter (Context.frame_keepsOuter.set _ v) hbodyKeeps
      · exact .after (fun h => (hR []).set h _ trivial) hbody
    rw [Node.write]
    intro text c d h
    have hheader := List.Subset.refl header.expressions
    simp only [← ((hR _).bindings_eq h hheader).1, ← ((hR _).attributeValues_eq h hheader).1]
    exact hrun _ _ text h
  | .table header body => by
    have hbody := writeAll_respects hR hkeeps hhost body
    have hbodyKeeps := writeAll_leads Context.frame_keepsOuter hkeeps body
    have hemit (output : String) : (Writing.ofRendering (emit output)).Respects R :=
      .ofRendering (respects_emit R output)
    have hemitKeeps (output : String) : (Writing.ofRendering (emit output)).KeepsOuter :=
      .ofRendering (Context.frame_keepsOuter.emit output)
    rw [Node.write]
    intro text c d h
    have hheader := List.Subset.refl header.expressions
    simp only [← (hR _).items_eq h hheader, ← (hR _).offset_eq h hheader,
      ← (hR _).limit?_eq h hheader, ← (hR _).columns?_eq h hheader]
    split
    · exact ⟨rfl, rfl, h⟩
    · refine Writing.Respects.inScope hR ?_ ?_ text h
      · refine .andThen Context.frame_keepsOuter (hemitKeeps _) (.andThen Context.frame_keepsOuter
          (.each Context.frame_keepsOuter (fun item => ?_) _) (hemitKeeps _))
        exact .after Context.frame_keepsOuter (Context.frame_keepsOuter.bindIteration _ _ _ _)
          (.andThen Context.frame_keepsOuter (hemitKeeps _)
            (.andThen Context.frame_keepsOuter hbodyKeeps (hemitKeeps _)))
      · refine (hemit _).andThen (.andThen (.each (fun item => ?_) _) (hemit _))
        exact .after (fun h => (hR []).bindIteration h _ _ trivial fun _ _ => trivial)
          ((hemit _).andThen (hbody.andThen (hemit _)))
  | .host name action arguments bodies => by
    rw [Node.write]
    exact hhost name action arguments _ (writeBodies_respects hR hkeeps hhost bodies)

/-- With such a host, nodes do not tell related contexts apart. -/
theorem writeAll_respects (hR : Context.TotalCongruence R) (hkeeps : host.KeepsOuter)
    (hhost : host.Respects R) : (nodes : List Node) → (writeAll host nodes).Respects R
  | [] => by
    rw [writeAll]
    exact .ofRendering (respects_emit R "")
  | node :: rest => by
    rw [writeAll]
    exact (node.write_respects hR hkeeps hhost).andThen (writeAll_respects hR hkeeps hhost rest)

theorem writeBodies_respects (hR : Context.TotalCongruence R) (hkeeps : host.KeepsOuter)
    (hhost : host.Respects R) : (bodies : List (List Node)) →
      ∀ body ∈ writeBodies host bodies, Writing.KeepsOuter body ∧ Writing.Respects R body
  | [] => by
    rw [writeBodies]
    exact fun _ h => (List.not_mem_nil h).elim
  | body :: rest => by
    rw [writeBodies]
    have hbody := writeAll_respects hR hkeeps hhost body
    have hbodyKeeps := writeAll_leads Context.frame_keepsOuter hkeeps body
    exact List.forall_mem_cons.2
      ⟨⟨hbodyKeeps, hbody⟩, writeBodies_respects hR hkeeps hhost rest⟩

theorem writeBranches_respects (hR : Context.TotalCongruence R) (hkeeps : host.KeepsOuter)
    (hhost : host.Respects R) (negated : Bool) {otherwise : Writing} (ho : otherwise.Respects R) :
    (branches : List (Condition × List Node)) →
      (writeBranches host negated otherwise branches).Respects R
  | [] => by
    rw [writeBranches]
    exact ho
  | (condition, body) :: rest => by
    rw [writeBranches]
    intro text c d h
    simp only [← (hR _).condition_eq h (List.Subset.refl condition.expressions)]
    split
    · exact (writeAll_respects hR hkeeps hhost body).inScope_writeAll hR hkeeps text h
    · exact writeBranches_respects hR hkeeps hhost false ho rest text h

theorem writeClauses_respects (hR : Context.TotalCongruence R) (hkeeps : host.KeepsOuter)
    (hhost : host.Respects R) (subject : Value) {otherwise : Writing} (ho : otherwise.Respects R)
    (rendered : Bool) : (clauses : List (List Expression × List Node)) →
      (writeClauses host subject otherwise rendered clauses).Respects R
  | [] => by
    rw [writeClauses]
    split
    · exact .ofRendering (respects_emit R "")
    · exact ho
  | (values, body) :: rest => by
    have hbody := (writeAll_respects hR hkeeps hhost body).inScope_writeAll hR hkeeps
    rw [writeClauses]
    intro text c d h
    simp only [← (hR _).matchesSubject_eq h subject (List.Subset.refl values)]
    split
    · exact hbody.andThen (writeClauses_respects hR hkeeps hhost subject ho true rest) text h
    · exact writeClauses_respects hR hkeeps hhost subject ho rendered rest text h

end

end

/-! ### Tags that do what their actions say -/

namespace HostRenderer

theorem registered_leads {Q : Context → Context → Prop} (hQ : Context.Frame Q) :
    registered.Leads Q := by
  intro name action arguments bodies hbodies
  have hbody (i : Nat) : (bodies.getD i (.ofRendering (emit ""))).toRendering.Leads Q := by
    rw [List.getD_eq_getElem?_getD]
    cases hi : bodies[i]? with
    | none => exact (Writing.Leads.ofRendering (hQ.emit "")).toRendering
    | some body => exact (hbodies body (List.mem_of_getElem? hi)).toRendering
  refine .ofRendering fun c => ?_
  rw [TagAction.run]
  cases action.steps (arguments.map (·.evaluate c)) with
  | error message => exact hQ.refl c
  | ok n =>
    have hsteps : (times n fun i =>
        (bodies.getD (action.body i) (.ofRendering (emit ""))).toRendering).Leads Q := by
      rw [times_eq_each]
      exact .eachBehind hQ.refl hQ.trans (fun i _ => hbody (action.body i)) ""
    cases action.ownScope with
    | true => exact hQ.leave (hsteps c.push)
    | false => exact hsteps c

/-- Such tags leave the scopes around the innermost one alone. -/
theorem registered_keepsOuter : registered.KeepsOuter := registered_leads Context.frame_keepsOuter

/-- Such tags leave the filters alone. -/
theorem registered_keepsFilters : registered.KeepsFilters := registered_leads Context.frame_filters

/-- Such tags read the context only to evaluate their arguments. -/
theorem registered_respects {R : Context → Context → Prop} (hR : Context.TotalCongruence R) :
    registered.Respects R := by
  intro name action arguments bodies hbodies
  have hbody (i : Nat) : (bodies.getD i (.ofRendering (emit ""))).toRendering.Respects R := by
    rw [List.getD_eq_getElem?_getD]
    cases hi : bodies[i]? with
    | none =>
      exact Writing.Respects.toRendering (.ofRendering (Context.frame_keepsOuter.emit ""))
        (.ofRendering (respects_emit R ""))
    | some body =>
      obtain ⟨hkeeps, hrespects⟩ := hbodies body (List.mem_of_getElem? hi)
      exact Writing.Respects.toRendering hkeeps hrespects
  refine .ofRendering ⟨fun c => ?_, fun {c d} h => ?_⟩
  · exact (Respects.tagAction (hR []) action _ hbody).keepsOuter c
  · simp only [(hR arguments).map_evaluate_eq h (List.Subset.refl arguments)]
    exact (Respects.tagAction (hR []) action _ hbody).run h

end HostRenderer

/-! ### Scopes that bind nothing -/

/-- The tags of the host leave the scopes around the innermost one alone, and do not depend on
scopes that bind nothing, as long as their bodies do not. -/
structure HostRenderer.IgnoresEmptyScopes (host : HostRenderer) : Prop where
  /-- The scopes around the innermost one are left alone. -/
  keepsOuter : host.KeepsOuter
  /-- Contexts that differ in empty scopes are not told apart. -/
  respects : host.Respects Context.SameBindings

theorem HostRenderer.registered_ignoresEmptyScopes : registered.IgnoresEmptyScopes :=
  ⟨registered_keepsOuter, registered_respects Context.SameBindings.congruence⟩

/-- A scope around a body in a scope of its own is one too many: it stays empty, and it is gone in
the end. -/
theorem inScope_inScope_writeAll {host : HostRenderer} (hhost : host.IgnoresEmptyScopes)
    {c : Context} (hc : c.attributes.IgnoresEmptyScopes) (nodes : List Node) (text : String) :
    (writeAll host nodes).inScope.inScope text c = (writeAll host nodes).inScope text c := by
  have hkeeps : (writeAll host nodes).KeepsOuter :=
    writeAll_leads Context.frame_keepsOuter hhost.keepsOuter nodes
  have hrespects : (writeAll host nodes).Respects Context.SameBindings :=
    writeAll_respects Context.SameBindings.congruence hhost.keepsOuter hhost.respects nodes
  generalize writeAll host nodes = w at hkeeps hrespects
  obtain ⟨hresult, htext, hafter⟩ := hrespects text (Context.SameBindings.push_push hc)
  have hscopes : (w text c.push.push).2.2.leave.leave.scopes =
      (w text c.push).2.2.leave.scopes := by
    rw [(hkeeps text c.push).scopes_leave, Context.leave, (hkeeps text c.push.push).scopes_leave]
    rfl
  refine Prod.ext hresult (Prod.ext htext ?_)
  -- registers and filters are those that the body leaves
  show (w text c.push.push).2.2.leave.leave = (w text c.push).2.2.leave
  rw [Context.mk.injEq]
  exact ⟨hscopes, hafter.registers_eq, hafter.filters_eq, hafter.attributes_eq⟩

end Liquid
