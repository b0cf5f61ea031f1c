import Liquid.Proofs.Expression.Literals
import Liquid.Proofs.Template.Expressions

/-!
# The literals of a template

No compiled template has a drop written in it: the values in its expressions come from markup.

- `Block.expressions`, `Progress.expressions`: the expressions that stand in an open block, and in
  all that has been read.
- `Progress.allDropFree_read`: reading a token adds expressions without drops only.
- `Engine.allDropFree_of_compile`: what a source compiles to is without drops.
-/

namespace Liquid

open Expression

/-! ### Pipelines and headers -/

theorem FilterCall.allDropFree_of_parse {markup : String} {s : List Char} {call : FilterCall}
    (h : FilterCall.parse markup s = .ok call) : AllDropFree call.arguments := by
  unfold FilterCall.parse at h
  simp only at h
  split at h
  · cases h
  · split at h
    · cases h
      trivial
    · obtain ⟨arguments, harguments, h⟩ := bind_eq_ok_iff.1 h
      cases h
      exact allDropFree_of_mapM (fun _ _ e he => dropFree_of_parse he) harguments

theorem Pipeline.allDropFree_of_parse {markup : String} {p : Pipeline}
    (h : Pipeline.parse markup = .ok p) : AllDropFree p.expressions := by
  have hcalls : ∀ {pieces : List (List Char)} {calls : List FilterCall},
      pieces.mapM (fun piece => FilterCall.parse markup (Text.trim piece)) = .ok calls →
      AllDropFree (calls.flatMap FilterCall.arguments) := by
    intro pieces calls hpieces
    rw [allDropFree_iff]
    intro e he
    obtain ⟨call, hcall, he⟩ := List.mem_flatMap.1 he
    obtain ⟨piece, -, hpiece⟩ := exists_of_mem_mapM hpieces hcall
    exact allDropFree_iff.1 (FilterCall.allDropFree_of_parse hpiece) e he
  unfold Pipeline.parse at h
  simp only at h
  split at h
  · obtain ⟨base, hbase, h⟩ := bind_eq_ok_iff.1 h
    obtain ⟨filters, hfilters, h⟩ := bind_eq_ok_iff.1 h
    cases h
    cases hbase
    exact hcalls hfilters
  · obtain ⟨base, hbase, h⟩ := bind_eq_ok_iff.1 h
    obtain ⟨filters, hfilters, h⟩ := bind_eq_ok_iff.1 h
    cases h
    obtain ⟨e, he, hsome⟩ := map_eq_ok_iff.1 hbase
    cases hsome
    show e.DropFree ∧ AllDropFree (filters.flatMap FilterCall.arguments)
    exact ⟨dropFree_of_parse he, hcalls hfilters⟩

theorem Operand.allDropFree_of_parse {s : List Char} {o : Operand} (h : Operand.parse s = .ok o) :
    AllDropFree o.expressions := by
  unfold Operand.parse at h
  split at h
  · cases h
    trivial
  · cases h
    trivial
  · obtain ⟨e, he, ho⟩ := map_eq_ok_iff.1 h
    cases ho
    exact ⟨dropFree_of_parse he, trivial⟩

theorem Comparison.allDropFree_of_parse {markup : String} {group : List (List Char)}
    {comparison : Comparison} (h : Comparison.parse markup group = .ok comparison) :
    AllDropFree comparison.expressions := by
  unfold Comparison.parse at h
  split at h
  · obtain ⟨left, hleft, h⟩ := bind_eq_ok_iff.1 h
    cases h
    exact allDropFree_append.2 ⟨Operand.allDropFree_of_parse hleft, trivial⟩
  · split at h
    · cases h
    · obtain ⟨left, hleft, h⟩ := bind_eq_ok_iff.1 h
      obtain ⟨right, hright, h⟩ := bind_eq_ok_iff.1 h
      cases h
      refine allDropFree_append.2 ⟨Operand.allDropFree_of_parse hleft, ?_⟩
      exact allDropFree_append.2 ⟨Operand.allDropFree_of_parse hright, trivial⟩
  · cases h

theorem Condition.allDropFree_of_parseGroups {markup : String} {first : List (List Char)}
    {others : List (Join × List (List Char))} {condition : Condition}
    (h : Condition.parseGroups markup first others = .ok condition) :
    AllDropFree condition.expressions := by
  induction others generalizing first condition with
  | nil =>
    obtain ⟨comparison, hcomparison, h⟩ := bind_eq_ok_iff.1 h
    cases h
    exact Comparison.allDropFree_of_parse hcomparison
  | cons group others ih =>
    obtain ⟨comparison, hcomparison, h⟩ := bind_eq_ok_iff.1 h
    obtain ⟨rest, hrest, h⟩ := bind_eq_ok_iff.1 h
    cases h
    exact allDropFree_append.2 ⟨Comparison.allDropFree_of_parse hcomparison, ih hrest⟩

theorem Condition.allDropFree_of_parse {markup : String} {condition : Condition}
    (h : Condition.parse markup = .ok condition) : AllDropFree condition.expressions :=
  Condition.allDropFree_of_parseGroups h

theorem LoopHeader.allDropFree_of_parse {tag markup : String} {header : LoopHeader}
    (h : LoopHeader.parse tag markup = .ok header) : AllDropFree header.expressions := by
  unfold LoopHeader.parse at h
  split at h
  · cases h
  · obtain ⟨attributes, hattributes, h⟩ := bind_eq_ok_iff.1 h
    obtain ⟨collection, hcollection, h⟩ := bind_eq_ok_iff.1 h
    cases h
    refine ⟨dropFree_of_parse hcollection, allDropFree_iff.2 ?_⟩
    intro e he
    obtain ⟨entry, hentry, he⟩ := List.mem_flatMap.1 he
    rcases Keyed.mem_insertAll hentry with hnil | hentry
    · cases hnil
    · obtain ⟨option, -, hoption⟩ := exists_of_mem_mapM hattributes hentry
      obtain ⟨value, hvalue, heq⟩ := bind_eq_ok_iff.1 hoption
      cases heq
      unfold LoopAttribute.parse at hvalue
      split at hvalue
      · cases hvalue
        cases he
      · obtain ⟨e', he', heq⟩ := map_eq_ok_iff.1 hvalue
        cases heq
        rw [List.mem_singleton.1 he]
        exact dropFree_of_parse he'

theorem Cycle.allDropFree_of_parse {markup : String} {cycle : Cycle}
    (h : Cycle.parse markup = .ok cycle) : AllDropFree cycle.expressions := by
  have hothers : ∀ {pieces : List (List Char)} {es : List Expression},
      pieces.mapM Expression.parse = .ok es → AllDropFree es :=
    allDropFree_of_mapM fun _ _ e he => dropFree_of_parse he
  unfold Cycle.parse at h
  simp only at h
  split at h
  · obtain ⟨group, hgroup, h⟩ := bind_eq_ok_iff.1 h
    obtain ⟨e, he, heq⟩ := map_eq_ok_iff.1 hgroup
    cases heq
    split at h
    · cases h
    · obtain ⟨first, hfirst, h⟩ := bind_eq_ok_iff.1 h
      obtain ⟨others, hpieces, h⟩ := bind_eq_ok_iff.1 h
      cases h
      show e.DropFree ∧ first.DropFree ∧ AllDropFree others
      exact ⟨dropFree_of_parse he, dropFree_of_parse hfirst, hothers hpieces⟩
  · obtain ⟨group, hgroup, h⟩ := bind_eq_ok_iff.1 h
    cases hgroup
    split at h
    · cases h
    · obtain ⟨first, hfirst, h⟩ := bind_eq_ok_iff.1 h
      obtain ⟨others, hpieces, h⟩ := bind_eq_ok_iff.1 h
      cases h
      show first.DropFree ∧ AllDropFree others
      exact ⟨dropFree_of_parse hfirst, hothers hpieces⟩

theorem Inclusion.allDropFree_of_parse {markup : String} {header : Inclusion}
    (h : Inclusion.parse markup = .ok header) : AllDropFree header.expressions := by
  have hattributes : ∀ {options : List (List Char × List Char)}
      {attributes : List (String × Expression)},
      (options.mapM fun option => do
        return (String.ofList option.1, ← Expression.parse option.2)) = .ok attributes →
      AllDropFree (attributes.map Prod.snd) := by
    intro options attributes hoptions
    rw [allDropFree_iff]
    intro e he
    obtain ⟨entry, hentry, rfl⟩ := List.mem_map.1 he
    obtain ⟨option, -, hoption⟩ := exists_of_mem_mapM hoptions hentry
    obtain ⟨value, hvalue, heq⟩ := bind_eq_ok_iff.1 hoption
    cases heq
    exact dropFree_of_parse hvalue
  unfold Inclusion.parse at h
  split at h
  · cases h
  · simp only at h
    split at h
    · obtain ⟨e, he, h⟩ := bind_eq_ok_iff.1 h
      obtain ⟨binding, hbinding, h⟩ := bind_eq_ok_iff.1 h
      obtain ⟨attributes, hoptions, h⟩ := bind_eq_ok_iff.1 h
      cases h
      cases hbinding
      exact allDropFree_append.2 ⟨⟨dropFree_of_parse he, trivial⟩, hattributes hoptions⟩
    · obtain ⟨e, he, h⟩ := bind_eq_ok_iff.1 h
      obtain ⟨binding, hbinding, h⟩ := bind_eq_ok_iff.1 h
      obtain ⟨attributes, hoptions, h⟩ := bind_eq_ok_iff.1 h
      cases h
      cases hbinding
      exact allDropFree_append.2 ⟨⟨dropFree_of_parse he, trivial⟩, hattributes hoptions⟩
    · obtain ⟨binding, hbinding, h⟩ := bind_eq_ok_iff.1 h
      obtain ⟨attributes, hoptions, h⟩ := bind_eq_ok_iff.1 h
      cases h
      cases hbinding
      refine allDropFree_append.2 ⟨?_, hattributes hoptions⟩
      -- the bound name is read as an expression, too
      rw [allDropFree_iff]
      intro e he
      exact dropFree_of_parse (toOption_eq_some_iff.1 (Option.mem_toList.1 he))

/-! ### Blocks -/

@[simp] theorem expressionsAll_nil : expressionsAll [] = [] := rfl

@[simp] theorem expressionsAll_append (nodes nodes' : List Node) :
    expressionsAll (nodes ++ nodes') = expressionsAll nodes ++ expressionsAll nodes' := by
  induction nodes with
  | nil => rfl
  | cons node rest ih =>
    rw [List.cons_append, expressionsAll, expressionsAll, ih, List.append_assoc]

@[simp] theorem expressionsAll_singleton (node : Node) :
    expressionsAll [node] = node.expressions := by
  rw [expressionsAll, expressionsAll, List.append_nil]

@[simp] theorem branchesExpressions_append (branches branches' : List (Condition × List Node)) :
    branchesExpressions (branches ++ branches') =
      branchesExpressions branches ++ branchesExpressions branches' := by
  induction branches with
  | nil => rfl
  | cons branch rest ih =>
    obtain ⟨condition, body⟩ := branch
    rw [List.cons_append, branchesExpressions, branchesExpressions, ih, List.append_assoc,
      List.append_assoc]

@[simp] theorem clausesExpressions_append
    (clauses clauses' : List (List Expression × List Node)) :
    clausesExpressions (clauses ++ clauses') =
      clausesExpressions clauses ++ clausesExpressions clauses' := by
  induction clauses with
  | nil => rfl
  | cons clause rest ih =>
    obtain ⟨values, body⟩ := clause
    rw [List.cons_append, clausesExpressions, clausesExpressions, ih, List.append_assoc,
      List.append_assoc]

@[simp] theorem bodiesExpressions_append (bodies bodies' : List (List Node)) :
    bodiesExpressions (bodies ++ bodies') =
      bodiesExpressions bodies ++ bodiesExpressions bodies' := by
  induction bodies with
  | nil => rfl
  | cons body rest ih =>
    rw [List.cons_append, bodiesExpressions, bodiesExpressions, ih, List.append_assoc]

namespace Block

/-- The expressions of an open block, apart from the body that is being read. -/
def expressions : Block → List Expression
  | capture _ => []
  | table header | loop header => header.expressions
  | loopElse header body => header.expressions ++ expressionsAll body
  | branch _ branches condition => branchesExpressions branches ++ condition.expressions
  | branchElse _ branches => branchesExpressions branches
  | caseHead subject => [subject]
  | clause subject clauses otherwise values =>
    subject :: (clausesExpressions clauses ++ (expressionsAll otherwise ++ values))
  | caseElse subject clauses => subject :: clausesExpressions clauses
  | host _ _ _ arguments bodies => arguments ++ bodiesExpressions bodies

/-- The expressions of what a delimiter makes of a block. -/
def Step.expressions : Step → List Expression
  | .next b => b.expressions
  | .done n => n.expressions

/-- The expressions of what a tag starts. -/
def Start.expressions : Start → List Expression
  | .node n => n.expressions
  | .block b => b.expressions
  | .raw | .comment => []

theorem allDropFree_of_parseWhen {markup : String} {values : List Expression}
    (h : parseWhen markup = .ok values) : AllDropFree values := by
  unfold parseWhen at h
  simp only at h
  obtain ⟨values', hvalues, h⟩ := bind_eq_ok_iff.1 h
  split at h
  · cases h
  · cases h
    exact allDropFree_of_mapM (fun _ _ e he => dropFree_of_parse he) hvalues

theorem allDropFree_of_delimitCase? {subject : Expression}
    {clauses : List (List Expression × List Node)} {otherwise : List Node} {name markup : String}
    {step : Step} (hsubject : subject.DropFree)
    (hclauses : AllDropFree (clausesExpressions clauses))
    (hotherwise : AllDropFree (expressionsAll otherwise))
    (h : delimitCase? subject clauses otherwise name markup = some (.ok step)) :
    AllDropFree step.expressions := by
  unfold delimitCase? at h
  split at h
  · obtain ⟨values, hvalues, hstep⟩ := bind_eq_ok_iff.1 (Option.some.inj h)
    cases hstep
    simp only [Step.expressions, expressions, allDropFree_cons, allDropFree_append]
    exact ⟨hsubject, hclauses, hotherwise, allDropFree_of_parseWhen hvalues⟩
  split at h
  · cases h
    show subject.DropFree ∧ AllDropFree (clausesExpressions clauses)
    exact ⟨hsubject, hclauses⟩
  split at h
  · cases h
    simp only [Step.expressions, Node.expressions, allDropFree_cons, allDropFree_append]
    exact ⟨hsubject, hclauses, hotherwise⟩
  · cases h

/-- A delimiter adds expressions without drops. -/
theorem allDropFree_of_delimit? {block : Block} {name markup : String} {body : List Node}
    {step : Step} (hblock : AllDropFree block.expressions)
    (hbody : AllDropFree (expressionsAll body))
    (h : block.delimit? name markup body = some (.ok step)) : AllDropFree step.expressions := by
  cases block with
  | capture target =>
    simp only [delimit?] at h
    split at h
    · cases h
      show AllDropFree (expressionsAll body)
      exact hbody
    · cases h
  | table header =>
    simp only [delimit?] at h
    split at h
    · cases h
      show AllDropFree (header.expressions ++ expressionsAll body)
      exact allDropFree_append.2 ⟨hblock, hbody⟩
    · cases h
  | loop header =>
    simp only [delimit?] at h
    split at h
    · cases h
      show AllDropFree (header.expressions ++ expressionsAll body)
      exact allDropFree_append.2 ⟨hblock, hbody⟩
    split at h
    · cases h
      -- a loop that ends without `else` has an empty body there
      simp only [Step.expressions, Node.expressions, expressionsAll_nil, List.append_nil]
      exact allDropFree_append.2 ⟨hblock, hbody⟩
    · cases h
  | loopElse header first =>
    simp only [delimit?] at h
    obtain ⟨hheader, hfirst⟩ := allDropFree_append.1 hblock
    split at h
    · cases h
      simp only [Step.expressions, Node.expressions, allDropFree_append]
      exact ⟨hheader, hfirst, hbody⟩
    · cases h
  | branch negated branches condition =>
    obtain ⟨hbranches, hcondition⟩ := allDropFree_append.1 hblock
    have hnew : AllDropFree (branchesExpressions (branches ++ [(condition, body)])) := by
      simp only [branchesExpressions_append, branchesExpressions, List.append_nil,
        allDropFree_append]
      exact ⟨hbranches, hcondition, hbody⟩
    simp only [delimit?] at h
    split at h
    · obtain ⟨condition', hcondition', hstep⟩ := bind_eq_ok_iff.1 (Option.some.inj h)
      cases hstep
      exact allDropFree_append.2 ⟨hnew, Condition.allDropFree_of_parse hcondition'⟩
    split at h
    · cases h
      exact hnew
    split at h
    · cases h
      exact allDropFree_append.2 ⟨hnew, trivial⟩
    · cases h
  | branchElse negated branches =>
    simp only [delimit?] at h
    split at h
    · cases h
      show AllDropFree (branchesExpressions branches ++ expressionsAll body)
      exact allDropFree_append.2 ⟨hblock, hbody⟩
    · cases h
  | caseHead subject =>
    -- what stands in front of the first clause is dropped
    have hclauses : AllDropFree (clausesExpressions []) := trivial
    have hotherwise : AllDropFree (expressionsAll []) := trivial
    exact allDropFree_of_delimitCase? hblock.1 hclauses hotherwise h
  | clause subject clauses otherwise values =>
    simp only [expressions, allDropFree_cons, allDropFree_append] at hblock
    obtain ⟨hsubject, hclauses, hotherwise, hvalues⟩ := hblock
    refine allDropFree_of_delimitCase? hsubject ?_ hotherwise h
    simp only [clausesExpressions_append, clausesExpressions, List.append_nil, allDropFree_append]
    exact ⟨hclauses, hvalues, hbody⟩
  | caseElse subject clauses => exact allDropFree_of_delimitCase? hblock.1 hblock.2 hbody h
  | host tag delimiters action arguments bodies =>
    obtain ⟨harguments, hbodies⟩ := allDropFree_append.1 hblock
    have hnew : AllDropFree (arguments ++ bodiesExpressions (bodies ++ [body])) := by
      simp only [bodiesExpressions_append, bodiesExpressions, List.append_nil,
        allDropFree_append]
      exact ⟨harguments, hbodies, hbody⟩
    simp only [delimit?] at h
    split at h
    · cases h
      exact hnew
    · cases h
      exact hnew
    · cases h

/-- What a built-in tag starts is without drops, if included templates are. -/
theorem allDropFree_of_openBuiltin {load : String → Except Error (List Node)}
    (hload : ∀ name nodes, load name = .ok nodes → AllDropFree (expressionsAll nodes))
    {tag : BuiltinTag} {markup : String} {start : Start}
    (h : openBuiltin load tag markup = .ok start) : AllDropFree start.expressions := by
  cases tag with
  | assign =>
    obtain ⟨node, hnode, heq⟩ := map_eq_ok_iff.1 h
    cases heq
    unfold parseAssign at hnode
    split at hnode
    · obtain ⟨pipeline, hpipeline, heq⟩ := bind_eq_ok_iff.1 hnode
      cases heq
      show AllDropFree pipeline.expressions
      exact Pipeline.allDropFree_of_parse hpipeline
    · cases hnode
  | capture =>
    obtain ⟨block, hblock, heq⟩ := map_eq_ok_iff.1 h
    cases heq
    unfold parseCapture at hblock
    split at hblock
    · cases hblock
      trivial
    · cases hblock
  | comment =>
    cases h
    trivial
  | raw =>
    cases h
    trivial
  | cycle =>
    obtain ⟨cycle, hcycle, heq⟩ := bind_eq_ok_iff.1 h
    cases heq
    show AllDropFree cycle.expressions
    exact Cycle.allDropFree_of_parse hcycle
  | loop =>
    obtain ⟨header, hheader, heq⟩ := bind_eq_ok_iff.1 h
    cases heq
    show AllDropFree header.expressions
    exact LoopHeader.allDropFree_of_parse hheader
  | branch =>
    obtain ⟨condition, hcondition, heq⟩ := bind_eq_ok_iff.1 h
    cases heq
    show AllDropFree condition.expressions
    exact Condition.allDropFree_of_parse hcondition
  | negatedBranch =>
    obtain ⟨condition, hcondition, heq⟩ := bind_eq_ok_iff.1 h
    cases heq
    show AllDropFree condition.expressions
    exact Condition.allDropFree_of_parse hcondition
  | case =>
    obtain ⟨block, hblock, heq⟩ := map_eq_ok_iff.1 h
    cases heq
    unfold parseCase at hblock
    split at hblock
    · cases hblock
    · obtain ⟨subject, hsubject, heq⟩ := bind_eq_ok_iff.1 hblock
      cases heq
      exact ⟨dropFree_of_parse hsubject, trivial⟩
  | inclusion =>
    obtain ⟨header, hheader, h⟩ := bind_eq_ok_iff.1 h
    obtain ⟨body, hbody, heq⟩ := bind_eq_ok_iff.1 h
    cases heq
    show AllDropFree (header.expressions ++ expressionsAll body)
    exact allDropFree_append.2 ⟨Inclusion.allDropFree_of_parse hheader, hload _ _ hbody⟩
  | table =>
    obtain ⟨header, hheader, heq⟩ := bind_eq_ok_iff.1 h
    cases heq
    show AllDropFree header.expressions
    exact LoopHeader.allDropFree_of_parse hheader

/-- The arguments of a registered tag are without drops. -/
theorem allDropFree_of_parseArguments {form : ArgumentForm} {markup : String}
    {arguments : List Expression} (h : parseArguments form markup = .ok arguments) :
    AllDropFree arguments := by
  unfold parseArguments at h
  cases form with
  | none =>
    cases h
    trivial
  | one message =>
    simp only at h
    split at h
    · cases h
    · obtain ⟨e, he, heq⟩ := bind_eq_ok_iff.1 h
      cases heq
      exact ⟨dropFree_of_parse he, trivial⟩
  | many =>
    simp only at h
    split at h
    · cases h
      trivial
    · exact allDropFree_of_mapM (fun _ _ e he => dropFree_of_parse he) h

/-- What a registered tag starts is without drops. -/
theorem allDropFree_of_openCustom {custom : CustomTag} {name markup : String} {start : Start}
    (h : openCustom custom name markup = .ok start) : AllDropFree start.expressions := by
  obtain ⟨arguments, harguments, rfl⟩ := map_eq_ok_iff.1 h
  have hfree : AllDropFree (arguments ++ bodiesExpressions []) :=
    allDropFree_append.2 ⟨allDropFree_of_parseArguments harguments, trivial⟩
  unfold startCustom
  split
  · exact hfree
  · exact hfree

end Block

/-! ### Reading tokens -/

section

variable {p p' : Progress}

namespace Progress

/-- The expressions of all that has been read. -/
def expressions (p : Progress) : List Expression :=
  expressionsAll p.nodes ++
    p.frames.flatMap fun frame => frame.block.expressions ++ expressionsAll frame.before

theorem allDropFree_mk {nodes : List Node} {frames : List Frame} {verbatim : Option Verbatim} :
    AllDropFree (Progress.expressions ⟨nodes, frames, verbatim⟩) ↔
      AllDropFree (expressionsAll nodes)
        ∧ AllDropFree (frames.flatMap fun f => f.block.expressions ++ expressionsAll f.before) :=
  allDropFree_append

theorem allDropFree_frames_cons {block : Block} {before : List Node} {frames : List Frame} :
    AllDropFree ((⟨block, before⟩ :: frames).flatMap fun f : Frame =>
        f.block.expressions ++ expressionsAll f.before) ↔
      (AllDropFree block.expressions ∧ AllDropFree (expressionsAll before))
        ∧ AllDropFree (frames.flatMap fun f => f.block.expressions ++ expressionsAll f.before) := by
  rw [List.flatMap_cons, allDropFree_append, allDropFree_append]

theorem allDropFree_add {node : Node} (hp : AllDropFree p.expressions)
    (hnode : AllDropFree node.expressions) : AllDropFree (p.add node).expressions := by
  obtain ⟨hnodes, hframes⟩ := allDropFree_mk.1 hp
  refine allDropFree_mk.2 ⟨?_, hframes⟩
  rw [expressionsAll_append, expressionsAll_singleton]
  exact allDropFree_append.2 ⟨hnodes, hnode⟩

theorem allDropFree_start {start : Block.Start} (hp : AllDropFree p.expressions)
    (hstart : AllDropFree start.expressions) : AllDropFree (p.start start).expressions := by
  cases start with
  | node node => exact allDropFree_add hp hstart
  | block block =>
    obtain ⟨hnodes, hframes⟩ := allDropFree_mk.1 hp
    have hempty : AllDropFree (expressionsAll []) := trivial
    exact allDropFree_mk.2 ⟨hempty, allDropFree_frames_cons.2 ⟨⟨hstart, hnodes⟩, hframes⟩⟩
  | raw => exact hp
  | comment => exact hp

theorem allDropFree_readVerbatim {t : Token} (v : Verbatim) (hp : AllDropFree p.expressions) :
    AllDropFree (p.readVerbatim t v).expressions := by
  have hend : ∀ {node : Node}, AllDropFree node.expressions →
      AllDropFree (Progress.expressions { p.add node with verbatim := none }) := fun hnode =>
    allDropFree_add hp hnode
  cases v with
  | raw text =>
    rw [readVerbatim]
    split
    · exact hend trivial
    · exact hp
  | comment depth =>
    rw [readVerbatim]
    split
    · exact hp
    split
    · split
      · exact hend trivial
      · exact hp
    · exact hp

variable {d : Dialect}

theorem allDropFree_openTag
    (hload : ∀ name nodes, d.load name = .ok nodes → AllDropFree (expressionsAll nodes))
    {name rest markup : String} (hp : AllDropFree p.expressions)
    (h : p.openTag d name rest markup = .ok p') : AllDropFree p'.expressions := by
  unfold openTag at h
  split at h
  · obtain ⟨start, hstart, heq⟩ := map_eq_ok_iff.1 h
    rw [← heq]
    exact allDropFree_start hp (Block.allDropFree_of_openBuiltin hload hstart)
  split at h
  · obtain ⟨start, hstart, heq⟩ := map_eq_ok_iff.1 h
    rw [← heq]
    exact allDropFree_start hp (Block.allDropFree_of_openCustom hstart)
  · cases h

theorem allDropFree_readTag
    (hload : ∀ name nodes, d.load name = .ok nodes → AllDropFree (expressionsAll nodes))
    {name rest markup : String} (hp : AllDropFree p.expressions)
    (h : p.readTag d name rest markup = .ok p') : AllDropFree p'.expressions := by
  obtain ⟨nodes, frames, verbatim⟩ := p
  cases frames with
  | nil => exact allDropFree_openTag hload hp h
  | cons frame outer =>
    obtain ⟨block, before⟩ := frame
    obtain ⟨hnodes, hframes⟩ := allDropFree_mk.1 hp
    obtain ⟨⟨hblock, hbefore⟩, houter⟩ := allDropFree_frames_cons.1 hframes
    simp only [readTag] at h
    split at h
    · exact allDropFree_openTag hload hp h
    · rename_i step hdelimit
      obtain ⟨step', rfl, h⟩ := bind_eq_ok_iff.1 h
      have hstep : AllDropFree step'.expressions :=
        Block.allDropFree_of_delimit? hblock hnodes hdelimit
      cases step' with
      | next block' =>
        cases h
        have hempty : AllDropFree (expressionsAll []) := trivial
        exact allDropFree_mk.2 ⟨hempty, allDropFree_frames_cons.2 ⟨⟨hstep, hbefore⟩, houter⟩⟩
      | done node =>
        cases h
        refine allDropFree_mk.2 ⟨?_, houter⟩
        rw [expressionsAll_append, expressionsAll_singleton]
        exact allDropFree_append.2 ⟨hbefore, hstep⟩

/-- A token adds expressions without drops only. -/
theorem allDropFree_read
    (hload : ∀ name nodes, d.load name = .ok nodes → AllDropFree (expressionsAll nodes))
    {t : Token} {tokens : List Token} (hp : AllDropFree p.expressions)
    (h : p.read d t tokens = .ok p') : AllDropFree p'.expressions := by
  unfold read at h
  split at h
  · cases h
    exact allDropFree_readVerbatim _ hp
  · cases t with
    | literal text =>
      simp only at h
      split at h
      · cases h
      · cases h
        exact allDropFree_add hp trivial
    | output markup =>
      obtain ⟨pipeline, hpipeline, heq⟩ := bind_eq_ok_iff.1 h
      cases heq
      exact allDropFree_add hp (Pipeline.allDropFree_of_parse hpipeline)
    | tag markup =>
      simp only at h
      split at h
      · cases h
      · exact allDropFree_readTag hload hp h

theorem allDropFree_readAll
    (hload : ∀ name nodes, d.load name = .ok nodes → AllDropFree (expressionsAll nodes))
    {tokens : List Token} (hp : AllDropFree p.expressions)
    (h : readAll d p tokens = .ok p') : AllDropFree p'.expressions := by
  induction tokens generalizing p with
  | nil =>
    cases h
    exact hp
  | cons t tokens ih =>
    obtain ⟨next, hnext, h⟩ := bind_eq_ok_iff.1 h
    exact ih (allDropFree_read hload hp hnext) h

theorem nodes_of_finish {nodes : List Node} (h : p.finish = .ok nodes) : nodes = p.nodes := by
  unfold finish at h
  split at h
  · cases h
  · cases h
  · cases h
  · cases h
    rfl

end Progress

end

theorem Template.allDropFree_of_parseTokens {d : Dialect}
    (hload : ∀ name nodes, d.load name = .ok nodes → AllDropFree (expressionsAll nodes))
    {tokens : List Token} {nodes : List Node} (h : Template.parseTokens d tokens = .ok nodes) :
    AllDropFree (expressionsAll nodes) := by
  obtain ⟨p, hp, hfinish⟩ := bind_eq_ok_iff.1 h
  -- nothing has been read at first
  have hempty : AllDropFree (Progress.expressions {}) := trivial
  rw [Progress.nodes_of_finish hfinish]
  exact (Progress.allDropFree_mk.1 (Progress.allDropFree_readAll hload hempty hp)).1

/-- What a source compiles to is without drops. The induction is on the depth that is left for
includes. -/
theorem Engine.allDropFree_of_compile {engine : Engine} {depth : Nat} {source : String}
    {nodes : List Node} (h : engine.compile depth source = .ok nodes) :
    AllDropFree (expressionsAll nodes) := by
  induction depth generalizing source nodes with
  | zero =>
    refine Template.allDropFree_of_parseTokens (fun name body hbody => ?_) h
    cases hbody
  | succ depth ih =>
    refine Template.allDropFree_of_parseTokens (fun name body hbody => ?_) h
    obtain ⟨text, -, hcompile⟩ := bind_eq_ok_iff.1 hbody
    exact ih hcompile

end Liquid
