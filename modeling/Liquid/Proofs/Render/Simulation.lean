import Liquid.Proofs.Render.Congruence
import Liquid.Proofs.Render.Frame

/-!
# Two runs of a template

Two runs of the same nodes begin in related contexts. If no tag can tell related contexts apart,
both runs come to the same output.

- `Rendering.Respects`: related contexts are taken to the same output or error, and to contexts that
  are related again.
- `Context.Congruence.renderAll_respects`: nodes respect every relation that is a congruence for
  their expressions.

A scope that a tag opens is filled alike in both contexts, but the scopes around it need not be
alike. That it leaves both contexts related when it ends is because it leaves those scopes alone.
-/

namespace Liquid

namespace Rendering

/-- Related contexts are not told apart. -/
structure Respects (R : Context → Context → Prop) (a : Rendering) : Prop where
  /-- The rendering leaves the scopes around the innermost one alone. -/
  keepsOuter : a.KeepsOuter
  /-- From related contexts come the same output or error, and related contexts. -/
  run {c d : Context} (h : R c d) : (a c).1 = (a d).1 ∧ R (a c).2 (a d).2

variable {R : Context → Context → Prop} {a b : Rendering}

theorem respects_emit (R : Context → Context → Prop) (output : String) : (emit output).Respects R :=
  ⟨.refl, fun h => ⟨rfl, h⟩⟩

theorem respects_fail (R : Context → Context → Prop) (error : Error) : (fail error).Respects R :=
  ⟨.refl, fun h => ⟨rfl, h⟩⟩

theorem Respects.andThen (ha : a.Respects R) (hb : b.Respects R) :
    (a.andThen b).Respects R := by
  refine ⟨.andThen .trans ha.keepsOuter hb.keepsOuter, fun {c d} h => ?_⟩
  -- both runs come to the same outcome of `a`, and then to the same outcome of `b`
  obtain ⟨houtput, hafter⟩ := ha.run h
  rw [Rendering.andThen, Rendering.andThen]
  cases hc : a c with
  | mk first c' =>
  cases hd : a d with
  | mk first' d' =>
  rw [hc, hd] at houtput hafter
  cases houtput
  cases first with
  | error e => exact ⟨rfl, hafter⟩
  | ok first =>
    obtain ⟨houtput', hafter'⟩ := hb.run hafter
    simp only
    cases hc' : b c' with
    | mk second c'' =>
    cases hd' : b d' with
    | mk second' d'' =>
    rw [hc', hd'] at houtput' hafter'
    cases houtput'
    cases second with
    | error e => exact ⟨rfl, hafter'⟩
    | ok second => exact ⟨rfl, hafter'⟩

theorem Respects.after {change : Context → Context}
    (hchange : ∀ c : Context, c.KeepsOuter (change c))
    (hafter : ∀ {c d : Context}, R c d → R (change c) (change d))
    (ha : a.Respects R) : (after change a).Respects R :=
  ⟨.after .trans hchange ha.keepsOuter, fun h => ha.run (hafter h)⟩

theorem Respects.mapOutput (f : String → String) (ha : a.Respects R) :
    (mapOutput f a).Respects R := by
  refine ⟨ha.keepsOuter, fun {c d} h => ?_⟩
  obtain ⟨houtput, hafter⟩ := ha.run h
  refine ⟨?_, hafter⟩
  show (a c).1.map f = (a d).1.map f
  rw [houtput]

theorem Respects.eachBehind {α : Type} {f : α → Rendering} {items : List α}
    (hf : ∀ x ∈ items, (f x).Respects R) (before : String) :
    (eachBehind f items before).Respects R := by
  refine ⟨.eachBehind .refl .trans (fun x hx => (hf x hx).keepsOuter) before, fun {c d} h => ?_⟩
  induction items generalizing before c d with
  | nil => exact ⟨rfl, h⟩
  | cons x rest ih =>
    obtain ⟨houtput, hafter⟩ := (hf x List.mem_cons_self).run h
    rw [Rendering.eachBehind, Rendering.eachBehind]
    cases hc : f x c with
    | mk result c' =>
    cases hd : f x d with
    | mk result' d' =>
    rw [hc, hd] at houtput hafter
    cases houtput
    cases result with
    | error e => exact ⟨rfl, hafter⟩
    | ok output => exact ih (fun y hy => hf y (List.mem_cons_of_mem x hy)) _ hafter

theorem Respects.each {α : Type} {f : α → Rendering} {items : List α}
    (hf : ∀ x ∈ items, (f x).Respects R) : (each f items).Respects R :=
  .eachBehind hf ""

theorem Respects.times {n : Nat} {f : Nat → Rendering} (hf : ∀ i, (f i).Respects R) :
    (times n f).Respects R := by
  rw [times_eq_each]
  exact .each fun i _ => hf i

section

variable {es : List Expression} {P : Value → Prop} (hR : Context.Congruence es P R)

include hR

theorem Respects.renderEach {reversed : Bool} {f : Value → Nat → Rendering} {items : LoopItems}
    (hitems : items.All P) (hf : ∀ v i, P v → (f v i).Respects R) :
    (items.renderEach reversed f).Respects R := by
  rw [LoopItems.renderEach_eq_each]
  refine .each fun item hitem => hf item.1 item.2 (hR.hereditary.values hitems reversed item.1 ?_)
  exact (List.mem_zipIdx' hitem).2 ▸ List.getElem_mem _

/-- A rendering in a scope of its own: what it binds is gone with the scope, in both contexts. -/
theorem Respects.inScope (ha : a.Respects R) : (inScope a).Respects R := by
  refine ⟨ha.keepsOuter.inScope, fun {c d} h => ?_⟩
  obtain ⟨houtput, hafter⟩ := ha.run (hR.push h)
  exact ⟨houtput, hR.leave h hafter (scopes_inScope ha.keepsOuter c)
    (scopes_inScope ha.keepsOuter d)⟩

theorem Respects.tagAction (action : TagAction) (values : List Value) {body : Nat → Rendering}
    (hbody : ∀ i, (body i).Respects R) : (action.run values body).Respects R := by
  rw [TagAction.run]
  cases action.steps values with
  | error message => exact respects_fail R _
  | ok n =>
    have hsteps : (Rendering.times n fun i => body (action.body i)).Respects R :=
      .times fun i => hbody (action.body i)
    refine .mapOutput _ ?_
    cases action.ownScope with
    | true => exact hsteps.inScope hR
    | false => exact hsteps

theorem Respects.bindTo (name : String) (ha : a.Respects R) : (bindTo name a).Respects R := by
  refine ⟨.bindTo .trans (Context.frame_keepsOuter.set name) ha.keepsOuter, fun {c d} h => ?_⟩
  obtain ⟨houtput, hafter⟩ := ha.run h
  rw [Rendering.bindTo, Rendering.bindTo]
  cases hc : a c with
  | mk result c' =>
  cases hd : a d with
  | mk result' d' =>
  rw [hc, hd] at houtput hafter
  cases houtput
  cases result with
  | error e => exact ⟨rfl, hafter⟩
  | ok output => exact ⟨rfl, hR.set hafter name (hR.hereditary.string output)⟩

end

end Rendering

/-! ### Nodes -/

namespace Context.Congruence

open Rendering

variable {es : List Expression} {P : Value → Prop} {R : Context → Context → Prop}

mutual

theorem node_respects (hR : Congruence es P R) : (node : Node) → node.expressions ⊆ es →
    node.render.Respects R
  | .text text, _ => respects_emit R text
  | .output pipeline, hsub => by
    refine ⟨Node.keepsOuter _, fun {c d} h => ?_⟩
    rw [Node.render]
    simp only [← (hR.pipeline_eq h hsub).1]
    cases pipeline.evaluate c with
    | error e => exact ⟨rfl, h⟩
    | ok v => exact ⟨rfl, h⟩
  | .assign name pipeline, hsub => by
    refine ⟨Node.keepsOuter _, fun {c d} h => ?_⟩
    have hvalue := (hR.pipeline_eq h hsub).2
    rw [Node.render]
    simp only [← (hR.pipeline_eq h hsub).1]
    cases hv : pipeline.evaluate c with
    | error e => exact ⟨rfl, h⟩
    | ok v => exact ⟨rfl, hR.set h name (hvalue v hv)⟩
  | .capture name body, hsub => by
    rw [Node.render]
    exact Respects.bindTo hR name (.inScope hR (renderAll_respects hR body hsub))
  | .comment, _ => respects_emit R ""
  | .raw text, _ => respects_emit R text
  | .cycle cycle, hsub =>
    ⟨Node.keepsOuter _, fun h => by
      rw [Node.render]
      obtain ⟨houtput, hafter⟩ := hR.step h hsub
      exact ⟨congrArg Except.ok houtput, hafter⟩⟩
  | .loop header body otherwise, hsub => by
    obtain ⟨hheader, hbodies⟩ := List.append_subset.1 hsub
    have hbody := renderAll_respects hR body (List.append_subset.1 hbodies).1
    have hotherwise := renderAll_respects hR otherwise (List.append_subset.1 hbodies).2
    refine ⟨Node.keepsOuter _, fun {c d} h => ?_⟩
    rw [Node.render]
    simp only [← hR.items_eq h hheader, ← hR.offset_eq h hheader, ← hR.limit?_eq h hheader]
    by_cases hempty : (header.items c).length = 0
    · simp only [if_pos hempty]
      exact (hotherwise.inScope hR).run h
    · simp only [if_neg hempty]
      -- where the loop stops is kept before its scope is opened
      refine (Respects.inScope hR (.renderEach hR ?_ fun v i hv => ?_)).run
        (hR.setRegisterEntry h _ _ _)
      · exact (hR.all_items h hheader).segment _ _
      · exact .after (Context.frame_keepsOuter.bindIteration _ _ _ _)
          (fun h => hR.bindIteration h _ _ hv (hR.hereditary.metadata _ _ _)) hbody
  | .branch negated branches otherwise, hsub => by
    obtain ⟨hbranches, hotherwise⟩ := List.append_subset.1 hsub
    rw [Node.render]
    have helse := renderAll_respects hR otherwise hotherwise
    exact renderBranches_respects hR negated (.inScope hR helse) branches hbranches
  | .case subject clauses otherwise, hsub => by
    obtain ⟨hsubject, hbodies⟩ := List.cons_subset.1 hsub
    obtain ⟨hclauses, hotherwise⟩ := List.append_subset.1 hbodies
    refine ⟨Node.keepsOuter _, fun {c d} h => ?_⟩
    rw [Node.render]
    simp only [← hR.evaluate_eq h hsubject]
    have helse := renderAll_respects hR otherwise hotherwise
    exact (renderClauses_respects hR _ (.inScope hR helse) false clauses hclauses).run h
  | .inclusion header body, hsub => by
    obtain ⟨hheader, hincluded⟩ := List.append_subset.1 hsub
    have hbody := renderAll_respects hR body hincluded
    refine ⟨Node.keepsOuter _, fun {c d} h => ?_⟩
    obtain ⟨hbindings, hvalues⟩ := hR.bindings_eq h hheader
    obtain ⟨hattributes, hattributeValues⟩ := hR.attributeValues_eq h hheader
    rw [Node.render]
    simp only [← hbindings, ← hattributes]
    refine (Respects.inScope hR (.after (Context.frame_keepsOuter.merge _) (fun h => hR.merge h ?_)
      (.each fun v hv => ?_))).run h
    · exact hattributeValues
    · exact .after (Context.frame_keepsOuter.set _ v)
        (fun h => hR.set h _ (hvalues v hv)) hbody
  | .table header body, hsub => by
    obtain ⟨hheader, hcell⟩ := List.append_subset.1 hsub
    have hbody := renderAll_respects hR body hcell
    refine ⟨Node.keepsOuter _, fun {c d} h => ?_⟩
    rw [Node.render]
    simp only [← hR.items_eq h hheader, ← hR.offset_eq h hheader, ← hR.limit?_eq h hheader,
      ← hR.columns?_eq h hheader]
    split
    · exact ⟨rfl, h⟩
    · refine (Respects.inScope hR (.andThen (respects_emit R _) (.andThen
        (.renderEach hR ?_ fun v i hv => ?_) (respects_emit R _)))).run h
      · exact (hR.all_items h hheader).segment _ _
      · refine .after (Context.frame_keepsOuter.bindIteration _ _ _ _)
          (fun h => hR.bindIteration h _ _ hv (hR.hereditary.tableMetadata _ _ _ _)) ?_
        exact .andThen (respects_emit R _) (.andThen hbody (respects_emit R _))
  | .host name action arguments bodies, hsub => by
    obtain ⟨harguments, hbodies⟩ := List.append_subset.1 hsub
    refine ⟨Node.keepsOuter _, fun {c d} h => ?_⟩
    rw [Node.render]
    simp only [hR.map_evaluate_eq h harguments]
    exact (Respects.tagAction hR action _ (renderBody_respects hR bodies hbodies)).run h

/-- Nodes respect a relation that is a congruence for their expressions. -/
theorem renderAll_respects (hR : Congruence es P R) : (nodes : List Node) →
    expressionsAll nodes ⊆ es → (renderAll nodes).Respects R
  | [], _ => respects_emit R ""
  | node :: rest, hsub => by
    obtain ⟨hnode, hrest⟩ := List.append_subset.1 hsub
    rw [renderAll]
    exact .andThen (node_respects hR node hnode) (renderAll_respects hR rest hrest)

theorem renderBody_respects (hR : Congruence es P R) : (bodies : List (List Node)) →
    bodiesExpressions bodies ⊆ es → (i : Nat) → (renderBody bodies i).Respects R
  | [], _, _ => respects_emit R ""
  | body :: _, hsub, 0 => renderAll_respects hR body (List.append_subset.1 hsub).1
  | _ :: rest, hsub, i + 1 => renderBody_respects hR rest (List.append_subset.1 hsub).2 i

theorem renderBranches_respects (hR : Congruence es P R) (negated : Bool) {otherwise : Rendering}
    (ho : otherwise.Respects R) : (branches : List (Condition × List Node)) →
      branchesExpressions branches ⊆ es → (renderBranches negated otherwise branches).Respects R
  | [], _ => ho
  | (condition, body) :: rest, hsub => by
    obtain ⟨hcondition, hbodies⟩ := List.append_subset.1 hsub
    have hbody := renderAll_respects hR body (List.append_subset.1 hbodies).1
    have hrest := renderBranches_respects hR false ho rest (List.append_subset.1 hbodies).2
    rw [renderBranches]
    refine ⟨fun c => ?_, fun {c d} h => ?_⟩
    · split
      · exact (hbody.inScope hR).keepsOuter c
      · exact hrest.keepsOuter c
    simp only [← hR.condition_eq h hcondition]
    by_cases hholds : (condition.evaluate c != negated) = true
    · simp only [if_pos hholds]
      exact (hbody.inScope hR).run h
    · simp only [if_neg hholds]
      exact hrest.run h

theorem renderClauses_respects (hR : Congruence es P R) (subject : Value) {otherwise : Rendering}
    (ho : otherwise.Respects R) (rendered : Bool) :
    (clauses : List (List Expression × List Node)) → clausesExpressions clauses ⊆ es →
      (renderClauses subject otherwise rendered clauses).Respects R
  | [], _ => by
    rw [renderClauses]
    split
    · exact respects_emit R ""
    · exact ho
  | (values, body) :: rest, hsub => by
    obtain ⟨hvalues, hbodies⟩ := List.append_subset.1 hsub
    obtain ⟨hinner, hrest⟩ := List.append_subset.1 hbodies
    have hbody := renderAll_respects hR body hinner
    have hmatched := Respects.andThen (hbody.inScope hR)
      (renderClauses_respects hR subject ho true rest hrest)
    have hunmatched := renderClauses_respects hR subject ho rendered rest hrest
    rw [renderClauses]
    refine ⟨fun c => ?_, fun {c d} h => ?_⟩
    · split
      · exact hmatched.keepsOuter c
      · exact hunmatched.keepsOuter c
    simp only [← hR.matchesSubject_eq h subject hvalues]
    by_cases hmatches : matchesSubject subject values c = true
    · simp only [if_pos hmatches]
      exact hmatched.run h
    · simp only [if_neg hmatches]
      exact hunmatched.run h

end

end Context.Congruence

end Liquid
