import Liquid.Engine
import Liquid.Proofs.Expression.Failure

/-!
# What is wrong with a tag

Each of the readers that a tag or an output is given to finds fault with the text in front of it and
with nothing else. Only an `include` can also end in an error of what it includes.

- `Pipeline.parse_failsWith`, `Condition.parse_failsWith`, `LoopHeader.parse_failsWith`, …: the
  errors of the single readers are errors in the text.
- `Block.delimit?_failsWith`: so are those of delimiters.
- `Block.openBuiltin_failsWith`, `Block.openCustom_failsWith`: a tag ends in an error in the text,
  or in one that an included template ends in.
-/

namespace Liquid

open Error Expression

/-! ### Pipelines and headers -/

theorem FilterCall.parse_failsWith (markup : String) (s : List Char) :
    FailsWith InText (FilterCall.parse markup s) := by
  unfold FilterCall.parse
  simp only
  split
  · exact failsWith_error trivial
  split
  · exact failsWith_ok _ _
  · exact FailsWith.bind (.mapM fun piece _ => Expression.parse_failsWith piece)
      fun arguments => failsWith_ok _ _

theorem Pipeline.parse_failsWith (markup : String) : FailsWith InText (Pipeline.parse markup) := by
  have hfilters : ∀ (pieces : List (List Char)) (base : Option Expression),
      FailsWith InText do
        let filters ← pieces.mapM fun piece => FilterCall.parse markup (Text.trim piece)
        return (⟨base, filters⟩ : Pipeline) := by
    intro pieces base
    refine FailsWith.bind (.mapM fun piece _ => ?_) fun filters => failsWith_ok _ _
    exact FilterCall.parse_failsWith markup _
  unfold Pipeline.parse
  simp only
  split
  · exact hfilters _ none
  · exact ((Expression.parse_failsWith _).map some).bind fun base => hfilters _ base

theorem Operand.parse_failsWith (s : List Char) : FailsWith InText (Operand.parse s) := by
  unfold Operand.parse
  split
  · exact failsWith_ok _ _
  · exact failsWith_ok _ _
  · exact (Expression.parse_failsWith s).map _

theorem Comparison.parse_failsWith (markup : String) (group : List (List Char)) :
    FailsWith InText (Comparison.parse markup group) := by
  unfold Comparison.parse
  split
  · exact (Operand.parse_failsWith _).bind fun left => failsWith_ok _ _
  · split
    · exact failsWith_error trivial
    · refine (Operand.parse_failsWith _).bind fun left => ?_
      exact (Operand.parse_failsWith _).bind fun right => failsWith_ok _ _
  · exact failsWith_error trivial

theorem Condition.parseGroups_failsWith (markup : String) (first : List (List Char))
    (others : List (Join × List (List Char))) :
    FailsWith InText (Condition.parseGroups markup first others) := by
  induction others generalizing first with
  | nil => exact (Comparison.parse_failsWith markup first).bind fun _ => failsWith_ok _ _
  | cons group others ih =>
    refine (Comparison.parse_failsWith markup first).bind fun _ => ?_
    exact (ih group.2).bind fun _ => failsWith_ok _ _

theorem Condition.parse_failsWith (markup : String) : FailsWith InText (Condition.parse markup) :=
  Condition.parseGroups_failsWith markup _ _

theorem LoopAttribute.parse_failsWith (name value : List Char) :
    FailsWith InText (LoopAttribute.parse name value) := by
  unfold LoopAttribute.parse
  split
  · exact failsWith_ok _ _
  · exact (Expression.parse_failsWith value).map _

theorem LoopHeader.parse_failsWith (tag markup : String) :
    FailsWith InText (LoopHeader.parse tag markup) := by
  unfold LoopHeader.parse
  split
  · exact failsWith_error trivial
  · refine FailsWith.bind (.mapM fun option _ => ?_) fun attributes => ?_
    · exact (LoopAttribute.parse_failsWith _ _).bind fun value => failsWith_ok _ _
    · exact (Expression.parse_failsWith _).bind fun collection => failsWith_ok _ _

theorem Cycle.parse_failsWith (markup : String) : FailsWith InText (Cycle.parse markup) := by
  unfold Cycle.parse
  simp only
  split
  case' h_1 => refine ((Expression.parse_failsWith _).map some).bind fun group => ?_
  -- with a group or without one, the values are read in the same way
  all_goals
    split
    · exact failsWith_error trivial
    · refine (Expression.parse_failsWith _).bind fun first => ?_
      exact FailsWith.bind (.mapM fun piece _ => Expression.parse_failsWith piece)
        fun others => failsWith_ok _ _

theorem Inclusion.parse_failsWith (markup : String) :
    FailsWith InText (Inclusion.parse markup) := by
  unfold Inclusion.parse
  split
  · exact failsWith_error trivial
  · next quoted behind _ =>
    have hattributes : ∀ binding rest, FailsWith InText do
        let attributes ← (Markup.attributes rest).mapM fun option => do
          return (String.ofList option.1, ← Expression.parse option.2)
        return (⟨String.ofList quoted.tail.dropLast, binding, attributes⟩ : Inclusion) := by
      intro binding rest
      refine FailsWith.bind (.mapM fun option _ => ?_) fun attributes => failsWith_ok _ _
      exact (Expression.parse_failsWith _).bind fun value => failsWith_ok _ _
    simp only [pure_bind]
    split
    · exact (Expression.parse_failsWith _).bind fun value => hattributes _ _
    · exact (Expression.parse_failsWith _).bind fun value => hattributes _ _
    · exact hattributes _ _

namespace Block

/-! ### Delimiters -/

theorem parseWhen_failsWith (markup : String) : FailsWith InText (parseWhen markup) := by
  unfold parseWhen
  simp only
  refine FailsWith.bind (.mapM fun piece _ => Expression.parse_failsWith piece) fun values => ?_
  split
  · exact failsWith_error trivial
  · exact failsWith_ok _ _

theorem delimitCase?_failsWith {subject : Expression}
    {clauses : List (List Expression × List Node)} {otherwise : List Node} {name markup : String}
    {step : Except Error Step}
    (h : delimitCase? subject clauses otherwise name markup = some step) :
    FailsWith InText step := by
  unfold delimitCase? at h
  split at h
  · cases h
    exact (parseWhen_failsWith markup).bind fun values => failsWith_ok _ _
  split at h
  · cases h
    exact failsWith_ok _ _
  split at h
  · cases h
    exact failsWith_ok _ _
  · cases h

/-- A delimiter ends in no error but those in the text. -/
theorem delimit?_failsWith {block : Block} {name markup : String} {body : List Node}
    {step : Except Error Step} (h : block.delimit? name markup body = some step) :
    FailsWith InText step := by
  cases block with
  | capture | table | loopElse | branchElse =>
    unfold delimit? at h
    simp only at h
    split at h
    · cases h
      exact failsWith_ok _ _
    · cases h
  | loop =>
    unfold delimit? at h
    simp only at h
    split at h
    · cases h
      exact failsWith_ok _ _
    split at h
    · cases h
      exact failsWith_ok _ _
    · cases h
  | branch negated branches condition =>
    unfold delimit? at h
    simp only at h
    split at h
    · cases h
      exact (Condition.parse_failsWith markup).bind fun condition => failsWith_ok _ _
    split at h
    · cases h
      exact failsWith_ok _ _
    split at h
    · cases h
      exact failsWith_ok _ _
    · cases h
  | caseHead => exact delimitCase?_failsWith h
  | clause => exact delimitCase?_failsWith h
  | caseElse => exact delimitCase?_failsWith h
  | host tag delimiters action arguments bodies =>
    unfold delimit? at h
    simp only at h
    split at h
    · cases h
      exact failsWith_ok _ _
    · cases h
      exact failsWith_ok _ _
    · cases h

/-! ### Tags -/

theorem parseAssign_failsWith (markup : String) : FailsWith InText (parseAssign markup) := by
  unfold parseAssign
  split
  · exact (Pipeline.parse_failsWith _).bind fun pipeline => failsWith_ok _ _
  · exact failsWith_error trivial

theorem parseCapture_failsWith (markup : String) : FailsWith InText (parseCapture markup) := by
  unfold parseCapture
  split
  · exact failsWith_ok _ _
  · exact failsWith_error trivial

theorem parseCase_failsWith (markup : String) : FailsWith InText (parseCase markup) := by
  unfold parseCase
  simp only
  split
  · exact failsWith_error trivial
  · exact (Expression.parse_failsWith _).bind fun subject => failsWith_ok _ _

/-- A built-in tag ends in an error in the text, or in one that a template ends in that it
includes. -/
theorem openBuiltin_failsWith {P : Error → Prop} (htext : ∀ e, InText e → P e)
    {load : String → Except Error (List Node)} {tag : BuiltinTag} {markup : String}
    (hload : ∀ header : Inclusion, tag = .inclusion → Inclusion.parse markup = .ok header →
      FailsWith P (load header.template)) :
    FailsWith P (openBuiltin load tag markup) := by
  cases tag with
  | assign => exact ((parseAssign_failsWith markup).mono htext).map _
  | capture => exact ((parseCapture_failsWith markup).mono htext).map _
  | comment => exact failsWith_ok _ _
  | raw => exact failsWith_ok _ _
  | cycle => exact ((Cycle.parse_failsWith markup).mono htext).bind fun _ => failsWith_ok _ _
  | loop => exact ((LoopHeader.parse_failsWith _ _).mono htext).bind fun _ => failsWith_ok _ _
  | branch => exact ((Condition.parse_failsWith markup).mono htext).bind fun _ => failsWith_ok _ _
  | negatedBranch =>
    exact ((Condition.parse_failsWith markup).mono htext).bind fun _ => failsWith_ok _ _
  | case => exact ((parseCase_failsWith markup).mono htext).map _
  | inclusion =>
    intro e h
    simp only [openBuiltin] at h
    cases hheader : Inclusion.parse markup with
    | error e' =>
      rw [hheader] at h
      cases h
      exact htext _ (Inclusion.parse_failsWith markup _ hheader)
    | ok header =>
      rw [hheader] at h
      exact (hload header rfl hheader).bind (fun body => failsWith_ok P (Start.node _)) e h
  | table => exact ((LoopHeader.parse_failsWith _ _).mono htext).bind fun _ => failsWith_ok _ _

theorem parseArguments_failsWith (form : ArgumentForm) (markup : String) :
    FailsWith InText (parseArguments form markup) := by
  unfold parseArguments
  cases form with
  | none => exact failsWith_ok _ _
  | one message =>
    simp only
    split
    · exact failsWith_error trivial
    · exact (Expression.parse_failsWith _).bind fun e => failsWith_ok _ _
  | many =>
    simp only
    split
    · exact failsWith_ok _ _
    · exact .mapM fun piece _ => Expression.parse_failsWith piece

/-- A registered tag ends in no error but those in the text. -/
theorem openCustom_failsWith (custom : CustomTag) (name markup : String) :
    FailsWith InText (openCustom custom name markup) :=
  (parseArguments_failsWith custom.form markup).map _

end Block

end Liquid
