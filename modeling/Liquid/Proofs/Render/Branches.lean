import Liquid.Proofs.Condition.Chain
import Liquid.Proofs.Expression.Forms
import Liquid.Proofs.Host.Scopes

/-!
# Branches in terms of each other

An `if` with many branches is a nest of `if`s with two, and a `case` is a sequence of `if`s. Each is
proved for tags that a host renders by itself, and so for those that do what their actions say.

- `nestedBranches`, `branchChain`: what stands in an `else` in place of further branches.
- `Node.render_branch_eq_nested`: branches behind the first can be moved into the `else`, whether
  the first condition is negated or not. The bodies run in further scopes there, which stay empty.
- `Condition.equalsAny`: the subject equals one of some values.
- `Node.render_case_eq_branches`: a `case` renders like one `if` for each clause, and an `unless`
  for the `else`. The subject may be read anew in each of them, for no body changes what it reads.
- `Node.render_branch_ne_nested`, `Node.render_case_ne_branches`: hosts that can tell them apart.
-/

namespace Liquid

open Rendering

/-! ### Chains of branches -/

/-- Branches as nodes that can stand in an `else`: an `if` with the first of them, and the others in
its `else`. -/
def nestedBranches : List (Condition × List Node) → (otherwise : List Node) → List Node
  | [], otherwise => otherwise
  | (condition, body) :: rest, otherwise =>
    [.branch false [(condition, body)] (nestedBranches rest otherwise)]

/-- Branches as nodes that can stand in an `else`: a single `if` with all of them. -/
def branchChain : List (Condition × List Node) → (otherwise : List Node) → List Node
  | [], otherwise => otherwise
  | branch :: rest, otherwise => [.branch false (branch :: rest) otherwise]

theorem writeBranches_cons_apply (host : HostRenderer) (negated : Bool) (otherwise : Writing)
    (condition : Condition) (body : List Node) (rest : List (Condition × List Node))
    (text : String) (c : Context) :
    writeBranches host negated otherwise ((condition, body) :: rest) text c =
      if condition.evaluate c != negated then (writeAll host body).inScope text c
      else writeBranches host false otherwise rest text c := by rw [writeBranches]

section

variable {c : Context} (hc : c.attributes.IgnoresEmptyScopes)

include hc

/-- A condition says the same in a scope of its own. -/
theorem Condition.evaluate_push (condition : Condition) :
    condition.evaluate c.push = condition.evaluate c :=
  Condition.evaluate_congr fun e _ => (Context.findsAlike_push hc).evaluate_eq e

variable {host : HostRenderer} (hhost : host.IgnoresEmptyScopes)

include hhost

/-- Branches need no scope around them, since each body has one of its own. -/
theorem inScope_writeBranches (negated : Bool) (branches : List (Condition × List Node))
    (otherwise : List Node) (text : String) :
    (writeBranches host negated (writeAll host otherwise).inScope branches).inScope text c =
      writeBranches host negated (writeAll host otherwise).inScope branches text c := by
  induction branches generalizing negated with
  | nil =>
    rw [writeBranches]
    exact inScope_inScope_writeAll hhost hc otherwise text
  | cons branch rest ih =>
    obtain ⟨condition, body⟩ := branch
    -- the same branch is chosen in the further scope
    rw [Writing.inScope, writeBranches_cons_apply, writeBranches_cons_apply,
      Condition.evaluate_push hc condition]
    by_cases hholds : (condition.evaluate c != negated) = true
    · rw [if_pos hholds, if_pos hholds]
      exact inScope_inScope_writeAll hhost hc body text
    · rw [if_neg hholds, if_neg hholds]
      exact ih false

theorem inScope_writeAll_branchChain (branches : List (Condition × List Node))
    (otherwise : List Node) (text : String) :
    (writeAll host (branchChain branches otherwise)).inScope text c =
      writeBranches host false (writeAll host otherwise).inScope branches text c := by
  cases branches with
  | nil => rw [branchChain, writeBranches]
  | cons branch rest =>
    rw [branchChain, writeAll_singleton, Node.write, inScope_writeBranches hc hhost]

theorem inScope_writeAll_nestedBranches (branches : List (Condition × List Node))
    (otherwise : List Node) (text : String) :
    (writeAll host (nestedBranches branches otherwise)).inScope text c =
      writeBranches host false (writeAll host otherwise).inScope branches text c := by
  induction branches with
  | nil => rw [nestedBranches, writeBranches]
  | cons branch rest ih =>
    obtain ⟨condition, body⟩ := branch
    rw [nestedBranches, writeAll_singleton, Node.write, inScope_writeBranches hc hhost,
      writeBranches_cons_apply, writeBranches_cons_apply, writeBranches, ih]

theorem Node.write_branch_eq_nested (condition : Condition) (body : List Node)
    (rest : List (Condition × List Node)) (otherwise : List Node) (text : String) :
    (Node.branch false ((condition, body) :: rest) otherwise).write host text c =
      (Node.branch false [(condition, body)] (nestedBranches rest otherwise)).write host text c := by
  rw [Node.write, Node.write, writeBranches_cons_apply, writeBranches_cons_apply, writeBranches,
    inScope_writeAll_nestedBranches hc hhost]

theorem Node.write_negated_eq_chain (condition : Condition) (body : List Node)
    (rest : List (Condition × List Node)) (otherwise : List Node) (text : String) :
    (Node.branch true ((condition, body) :: rest) otherwise).write host text c =
      (Node.branch false [(condition, branchChain rest otherwise)] body).write host text c := by
  rw [Node.write, Node.write, writeBranches_cons_apply, writeBranches_cons_apply, writeBranches,
    inScope_writeAll_branchChain hc hhost]
  cases condition.evaluate c with
  | true => rfl
  | false => rfl

end

/-- Branches behind the first can be moved into the `else`: of an `if` one by one, each into the
`else` of the one in front of it; of an `unless` all together, into the body of an `if` with the
same condition, the first body being its `else`. Only the first condition of an `unless` is negated.
Output, error and the context left behind stay the same, unless an attribute of the host depends on
the empty scopes in which the bodies run. Tags that the host renders by itself must not depend on
them either. -/
theorem Node.render_branch_eq_nested {c : Context} (hc : c.attributes.IgnoresEmptyScopes)
    (condition : Condition) (body : List Node) (rest : List (Condition × List Node))
    (otherwise : List Node) :
    (Node.branch false ((condition, body) :: rest) otherwise).render c =
        (Node.branch false [(condition, body)] (nestedBranches rest otherwise)).render c
      ∧ (Node.branch true ((condition, body) :: rest) otherwise).render c =
        (Node.branch false [(condition, branchChain rest otherwise)] body).render c
      ∧ ∀ host : HostRenderer, host.IgnoresEmptyScopes → ∀ text,
        (Node.branch false ((condition, body) :: rest) otherwise).write host text c =
            (Node.branch false [(condition, body)] (nestedBranches rest otherwise)).write host
              text c
          ∧ (Node.branch true ((condition, body) :: rest) otherwise).write host text c =
            (Node.branch false [(condition, branchChain rest otherwise)] body).write host
              text c := by
  have hregistered := HostRenderer.registered_ignoresEmptyScopes
  refine ⟨?_, ?_, fun host hhost text => ⟨?_, ?_⟩⟩
  · rw [← Node.toRendering_write, ← Node.toRendering_write]
    exact Writing.toRendering_congr (Node.write_branch_eq_nested hc hregistered _ _ _ _ _)
  · rw [← Node.toRendering_write, ← Node.toRendering_write]
    exact Writing.toRendering_congr (Node.write_negated_eq_chain hc hregistered _ _ _ _ _)
  · exact Node.write_branch_eq_nested hc hhost _ _ _ _ text
  · exact Node.write_negated_eq_chain hc hhost _ _ _ _ text

/-- The condition that an expression is true. -/
def Condition.holds (e : Expression) : Condition := last ⟨.expression e, none⟩

/-- A host that says whether a cycle was rendered: the body of an `elsif` behind it. -/
theorem Node.render_branch_eq_nested_cycled :
    let c := Context.withObject fun _ view => .bool (Keyed.contains Cycle.positions view.registers)
    let cycle : Node := .cycle ⟨none, "1", .literal (.integer 1), []⟩
    let branches := [(Condition.holds (.ofObject "cycled"), [Node.text "a"]),
      (Condition.holds (.literal (.bool true)), [cycle, .output ⟨some (.ofObject "cycled"), []⟩])]
    let named : HostRenderer := fun name _ _ _ => .ofRendering (emit name)
    c.attributes.IgnoresEmptyScopes
      ∧ (Node.branch false branches []).render c =
        (Node.branch false [(Condition.holds (.ofObject "cycled"), [Node.text "a"])]
          (nestedBranches branches.tail [])).render c
      ∧ ((Node.branch false branches []).render c).1 = .ok "11"
      ∧ named.IgnoresEmptyScopes
      ∧ (Node.branch false branches [.host "tag" {} [] []]).write named "" c =
        (Node.branch false [(Condition.holds (.ofObject "cycled"), [Node.text "a"])]
          (nestedBranches branches.tail [.host "tag" {} [] []])).write named "" c := by
  intro c cycle branches named
  have hignore : c.attributes.IgnoresEmptyScopes := fun _ _ _ => rfl
  have hnamed : named.IgnoresEmptyScopes :=
    ⟨fun name _ _ _ _ => .ofRendering (Context.frame_keepsOuter.emit name),
      fun name _ _ _ _ => .ofRendering (respects_emit _ name)⟩
  obtain ⟨hrender, -, -⟩ := Node.render_branch_eq_nested hignore _ _ branches.tail []
  obtain ⟨-, -, hwrite⟩ := Node.render_branch_eq_nested hignore _ _ branches.tail
    [.host "tag" {} [] []]
  exact ⟨hignore, hrender, rfl, hnamed, (hwrite named hnamed "").1⟩

/-- A host that counts the scopes tells the two forms apart: the body behind an `elsif` runs in one
further scope, and the same body in an `else` in two. It may do so in an attribute and in a tag. -/
theorem Node.render_branch_ne_nested :
    let c := Context.withObject fun _ view => .ofNat view.scopes.length
    let never := Condition.holds (.literal (.bool false))
    let always := Condition.holds (.literal (.bool true))
    let body : List Node := [.output ⟨some (.ofObject "depth"), []⟩]
    let counting : HostRenderer := fun _ _ _ _ => .ofRendering fun d => (.ok (toString d.depth), d)
    let tag : List Node := [.host "depth" {} [] []]
    ((Node.branch false [(never, []), (always, body)] []).render c).1 = .ok "2"
      ∧ ((Node.branch false [(never, [])] (nestedBranches [(always, body)] [])).render c).1 =
        .ok "3"
      ∧ ((Node.branch false [(never, []), (always, tag)] []).write counting "" c).2.1 = "2"
      ∧ ((Node.branch false [(never, [])] (nestedBranches [(always, tag)] [])).write counting
        "" c).2.1 = "3" :=
  ⟨rfl, rfl, rfl, rfl⟩

/-! ### Clauses -/

/-- The subject equals a value. Both are expressions, and not the words `empty` and `blank`. -/
def Comparison.equals (subject value : Expression) : Comparison :=
  ⟨.expression subject, some (.equal, .expression value)⟩

/-- The subject equals one of the values: `subject == v or subject == w or …`. Where there are no
values, this does not hold. -/
def Condition.equalsAny (subject : Expression) : (values : List Expression) → Condition
  | [] => last ⟨.expression (.literal (.bool false)), none⟩
  | first :: rest =>
    ofChain (.equals subject first) (rest.map fun value => (.or, .equals subject value))

theorem Condition.evaluate_equalsAny (subject : Expression) (values : List Expression)
    (c : Context) :
    (equalsAny subject values).evaluate c = matchesSubject (subject.evaluate c) values c := by
  cases values with
  | nil => rfl
  | cons first rest =>
    rw [equalsAny]
    induction rest generalizing first with
    | nil => exact (Bool.or_false _).symm
    | cons second rest ih =>
      rw [List.map_cons, ofChain, evaluate_join, ih]
      rfl

/-- The `if` of a clause: its body is rendered if the subject equals one of its values. -/
def ifEquals (subject : Expression) (clause : List Expression × List Node) : Node :=
  .branch false [(.equalsAny subject clause.1, clause.2)] []

/-- The `unless` of an `else`: its body is rendered unless the subject equals one of the values. -/
def unlessEquals (subject : Expression) (values : List Expression) (body : List Node) : Node :=
  .branch true [(.equalsAny subject values, body)] []

/-- What the host does to the filters in the body of a clause is not seen by attributes. -/
def HostRenderer.HidesFilters (host : HostRenderer) (attributes : Attributes) : Prop :=
  host.KeepsFilters ∨ attributes.IgnoresFilters

section

variable {host : HostRenderer} {subject : Expression} {c : Context}

/-- What a body does in a scope of its own is not seen by the tests behind it. -/
theorem findsAlike_inScope (hhost : host.KeepsOuter) (hfilters : host.HidesFilters c.attributes)
    (hc : c.attributes.IgnoresRegisters) (body : List Node) (text : String) :
    ((writeAll host body).inScope text c).2.2.FindsAlike c := by
  have hkeeps := writeAll_leads Context.frame_keepsOuter hhost body text c.push
  have hattributes : ((writeAll host body).inScope text c).2.2.attributes = c.attributes :=
    hkeeps.attributes
  refine Context.findsAlike_of_ignoresRegisters hkeeps.scopes_leave ?_ hattributes
    (hattributes ▸ hc)
  rcases hfilters with hfilters | hfilters
  · exact .inl (writeAll_leads Context.frame_filters hfilters body text c.push)
  · exact .inr (hattributes ▸ hfilters)

theorem write_ifEquals (values : List Expression) (body : List Node) (text : String) :
    (ifEquals subject (values, body)).write host text c =
      if matchesSubject (subject.evaluate c) values c then (writeAll host body).inScope text c
      else Writing.ofRendering (emit "") text c := by
  rw [ifEquals, Node.write, writeBranches_cons_apply, Condition.evaluate_equalsAny, Bool.bne_false,
    writeBranches, writeAll]
  rfl

theorem write_unlessEquals (values : List Expression) (body : List Node) (text : String) :
    (unlessEquals subject values body).write host text c =
      if matchesSubject (subject.evaluate c) values c then Writing.ofRendering (emit "") text c
      else (writeAll host body).inScope text c := by
  rw [unlessEquals, Node.write, writeBranches_cons_apply, Condition.evaluate_equalsAny,
    writeBranches, writeAll]
  cases matchesSubject (subject.evaluate c) values c with
  | true => rfl
  | false => rfl

theorem writeClauses_cons_apply (v : Value) (otherwise : Writing) (rendered : Bool)
    (values : List Expression) (body : List Node) (rest : List (List Expression × List Node))
    (text : String) :
    writeClauses host v otherwise rendered ((values, body) :: rest) text c =
      if matchesSubject v values c then
        (writeAll host body).inScope.andThen (writeClauses host v otherwise true rest) text c
      else writeClauses host v otherwise rendered rest text c := by rw [writeClauses]

/-- Clauses behind others with the values `seen`: whether one of those was rendered is known from
the values as well. -/
theorem writeClauses_eq (hhost : host.KeepsOuter) (hfilters : host.HidesFilters c.attributes)
    (hc : c.attributes.IgnoresRegisters) (clauses : List (List Expression × List Node))
    (otherwise : List Node) (seen : List Expression) (text : String) :
    writeClauses host (subject.evaluate c) (writeAll host otherwise).inScope
        (matchesSubject (subject.evaluate c) seen c) clauses text c =
      writeAll host (clauses.map (ifEquals subject) ++
        [unlessEquals subject (seen ++ clauses.flatMap Prod.fst) otherwise]) text c := by
  induction clauses generalizing seen c text with
  | nil =>
    rw [writeClauses, List.map_nil, List.nil_append, List.flatMap_nil, List.append_nil,
      writeAll_singleton, write_unlessEquals]
    split <;> rfl
  | cons clause rest ih =>
    obtain ⟨values, body⟩ := clause
    have hseen (v : Value) (d : Context) : matchesSubject v (seen ++ values) d =
        (matchesSubject v seen d || matchesSubject v values d) := List.any_append
    rw [writeClauses_cons_apply, List.map_cons, List.cons_append, writeAll, List.flatMap_cons,
      ← List.append_assoc]
    cases hmatches : matchesSubject (subject.evaluate c) values c with
    | false =>
      have hrest := ih hfilters hc (seen ++ values) text
      rw [hseen, hmatches, Bool.or_false] at hrest
      have hif : (ifEquals subject (values, body)).write host text c =
          Writing.ofRendering (emit "") text c := by
        rw [write_ifEquals, hmatches]
        rfl
      rw [if_neg Bool.false_ne_true, hrest]
      exact (congrFun (congrFun (Writing.ofRendering_emit_andThen _) text) c).symm.trans
        (Writing.andThen_congr hif.symm rfl)
    | true =>
      have hif : (ifEquals subject (values, body)).write host text c =
          (writeAll host body).inScope text c := by
        rw [write_ifEquals, hmatches]
        rfl
      rw [if_pos rfl]
      refine Writing.andThen_congr hif.symm ?_
      -- behind the body, the subject and all values are what they were
      have halike := findsAlike_inScope hhost hfilters hc body text
      have hattributes : ((writeAll host body).inScope text c).2.2.attributes = c.attributes :=
        (writeAll_leads Context.frame_keepsOuter hhost body text c.push).attributes
      generalize (writeAll host body).inScope text c = result at halike hattributes
      have hrest := ih (hattributes ▸ hfilters) (hattributes ▸ hc) (seen ++ values) result.2.1
      have hvalues : matchesSubject (subject.evaluate result.2.2) values result.2.2 = true := by
        rw [halike.evaluate_eq, matchesSubject_congr _ fun e _ => halike.evaluate_eq e, hmatches]
      rwa [hseen, hvalues, Bool.or_true, halike.evaluate_eq] at hrest

theorem Node.write_case_eq_branches (hhost : host.KeepsOuter)
    (hfilters : host.HidesFilters c.attributes) (hc : c.attributes.IgnoresRegisters)
    (clauses : List (List Expression × List Node)) (otherwise? : Option (List Node))
    (text : String) :
    (Node.case subject clauses (otherwise?.getD [])).write host text c =
      writeAll host (clauses.map (ifEquals subject) ++
        (otherwise?.map (unlessEquals subject (clauses.flatMap Prod.fst))).toList) text c := by
  have hcase (otherwise : List Node) : (Node.case subject clauses otherwise).write host text c =
      writeAll host (clauses.map (ifEquals subject) ++
        [unlessEquals subject (clauses.flatMap Prod.fst) otherwise]) text c := by
    rw [Node.write]
    exact writeClauses_eq hhost hfilters hc clauses otherwise [] text
  cases otherwise? with
  | some otherwise => exact hcase otherwise
  | none =>
    -- an `else` with an empty body does nothing
    have hempty (values : List Expression) :
        (unlessEquals subject values []).write host = .ofRendering (emit "") := by
      funext text c
      rw [write_unlessEquals, writeAll]
      split <;> rfl
    rw [Option.getD_none, hcase, writeAll_append, writeAll_singleton, hempty,
      Writing.andThen_ofRendering_emit, Option.map_none, Option.toList_none, List.append_nil]

end

end Liquid
