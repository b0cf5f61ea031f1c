import Liquid.Proofs.Engine.Depth
import Liquid.Proofs.Host.Errors
import Liquid.Proofs.Template.IncludeTag

/-!
# The limit of nested includes

What compiling a source has to do with the limit of the engine, for any file system, also one whose
templates include each other in a circle.

- `Engine.parse_of_le`: a greater limit only matters where the limit was reached.
- `Engine.reaches_itself`, `Engine.parse_itself`: a template that includes itself reaches every
  limit.
- `Engine.parse_limit`: compiling ends, keeps to the limit, reports it just where it is reached, and
  does not read the template that is one too deep.
-/

namespace Liquid

namespace Engine

variable (engine : Engine)

theorem parse_eq_error_iff {engine : Engine} {source : String} {e : Error} :
    engine.parse source = .error e ↔ engine.compile engine.maxIncludeDepth source = .error e := by
  rw [parse]
  cases engine.compile engine.maxIncludeDepth source with
  | error e' => exact ⟨fun h => by cases h; rfl, fun h => by cases h; rfl⟩
  | ok nodes => exact ⟨fun h => (by cases h), fun h => (by cases h)⟩

theorem parse_eq_ok_iff_compile {engine : Engine} {source : String} {template : Template} :
    engine.parse source = .ok template ↔
      template.name = none
        ∧ engine.compile engine.maxIncludeDepth source = .ok template.nodes := by
  rw [parse, bind_eq_ok_iff]
  constructor
  · rintro ⟨nodes, hnodes, h⟩
    cases h
    exact ⟨rfl, hnodes⟩
  · obtain ⟨name, nodes⟩ := template
    rintro ⟨rfl, hnodes⟩
    exact ⟨nodes, hnodes, rfl⟩

/-- A greater limit only matters where the limit was reached. -/
theorem parse_of_le {source : String} {limit : Nat} (hle : engine.maxIncludeDepth ≤ limit)
    (h : ∀ name reported, engine.parse source ≠ .error (.includeDepthExceeded name reported)) :
    { engine with maxIncludeDepth := limit }.parse source = engine.parse source := by
  have hcompile : ∀ name reported, engine.compile engine.maxIncludeDepth source ≠
      .error (.includeDepthExceeded name reported) :=
    fun name reported hexceeded => h name reported (parse_eq_error_iff.2 hexceeded)
  -- no error that is left reports a limit
  have hkeeps : FailsWith (fun e => e.withLimit limit = e)
      (engine.compile engine.maxIncludeDepth source) := by
    intro e he
    cases e with
    | includeDepthExceeded name reported => exact (hcompile name reported he).elim
    | _ => rfl
  have hsame : { engine with maxIncludeDepth := limit }.compile limit source =
      engine.compile engine.maxIncludeDepth source := by
    rw [compile_withLimit, compile_of_le hle hcompile]
    exact hkeeps.mapError_eq fun e he => he
  rw [parse, hsame, parse]

/-- A template that includes itself is opened as often as may be, and once more. -/
theorem reaches_itself {engine : Engine} {name : String} (hquote : Inclusion.NoQuote name)
    (hcloser : ¬ Token.tagCloser <:+: name.toList)
    (hread : engine.fileSystem.read name = .ok (Inclusion.plainSource name)) (depth : Nat) :
    engine.Reaches (List.replicate depth name) {} (tokenize (Inclusion.plainSource name)) name := by
  have hinclusion : Progress.inclusion? {} (.tag (Inclusion.plainMarkup name)) =
      some (Inclusion.plain name) := Progress.inclusion?_plainMarkup rfl hquote
  induction depth with
  | zero =>
    rw [Inclusion.tokenize_plainSource hcloser]
    exact .here hinclusion
  | succ depth ih =>
    rw [Inclusion.tokenize_plainSource hcloser]
    exact .inside hinclusion hread ih

/-- Such a template reaches every limit. -/
theorem parse_itself {name : String} (hquote : Inclusion.NoQuote name)
    (hcloser : ¬ Token.tagCloser <:+: name.toList)
    (hread : engine.fileSystem.read name = .ok (Inclusion.plainSource name)) :
    engine.parse (Inclusion.plainSource name) =
      .error (.includeDepthExceeded name engine.maxIncludeDepth) :=
  parse_eq_error_iff.2 (compile_exceeded_iff.2
    ⟨rfl, _, List.length_replicate, reaches_itself hquote hcloser hread _⟩)

/-- The limit of nested includes, for any file system and any registered tags.

Reading goes on without end nowhere, and so compiling ends. If it succeeds, no chain of
includes in the tree is longer than the limit. It fails for the limit just where an `include` is
come to, in order and with no other error in front of it, while as many are open as may be; the
error tells its name and the limit. This is then the last of all includes that are come to, and the
only one that is not read: compiling depends on no template but those that are read. And unless the
limit was reached, a greater one makes no difference. -/
theorem parse_limit (source : String) :
    WellFounded engine.GoesOn
    ∧ (∀ template, engine.parse source = .ok template →
      ∀ node ∈ template.nodes, ∀ chain, node.Chain chain → chain.length ≤ engine.maxIncludeDepth)
    ∧ (∀ name reported, engine.parse source = .error (.includeDepthExceeded name reported) ↔
      reported = engine.maxIncludeDepth
        ∧ ∃ chain : List String, chain.length = engine.maxIncludeDepth
          ∧ engine.Reaches chain {} (tokenize source) name)
    ∧ (∀ name reported, engine.parse source = .error (.includeDepthExceeded name reported) →
      ∃ before, engine.reached engine.maxIncludeDepth source = before ++ [(name, 0)]
        ∧ ∀ r ∈ before, r.2 ≠ 0)
    ∧ (∀ fileSystem : FileSystem,
      (∀ name ∈ engine.reads engine.maxIncludeDepth source,
        fileSystem.read name = engine.fileSystem.read name) →
      { engine with fileSystem := fileSystem }.parse source = engine.parse source)
    ∧ (∀ limit, engine.maxIncludeDepth ≤ limit →
      (∀ name reported, engine.parse source ≠ .error (.includeDepthExceeded name reported)) →
      { engine with maxIncludeDepth := limit }.parse source = engine.parse source) := by
  refine ⟨engine.wellFounded_goesOn, fun template h => ?_, fun name reported => ?_,
    fun name reported h => ?_, fun fileSystem h => ?_, fun limit => engine.parse_of_le⟩
  · exact length_chain_le_of_compile (parse_eq_ok_iff_compile.1 h).2
  · rw [parse_eq_error_iff]
    exact compile_exceeded_iff
  · rw [parse_eq_error_iff] at h
    rcases engine.reportsLimit_compile engine.maxIncludeDepth source with
      ⟨-, hne⟩ | ⟨before, last, hreached, hbefore, herror⟩
    · exact (hne name reported h).elim
    · rw [h] at herror
      cases herror
      exact ⟨before, hreached, hbefore⟩
  · rw [parse, parse, compile_congr_of_reads h]

/-- A template that includes itself is read twice when two includes may be nested, and then it is
one too deep; the empty template never is. -/
theorem parse_limit_two_levels :
    let source := Inclusion.plainSource "loop"
    let engine : Engine := { fileSystem := .memory [("loop", source)], maxIncludeDepth := 2 }
    engine.parse source = .error (.includeDepthExceeded "loop" 2)
      ∧ (∃ before, engine.reached 2 source = before ++ [("loop", 0)] ∧ ∀ r ∈ before, r.2 ≠ 0)
      ∧ { engine with maxIncludeDepth := 3 }.parse "" = engine.parse "" := by
  intro source engine
  have hquote : Inclusion.NoQuote "loop" := by decide +kernel
  have hcloser : ¬ Token.tagCloser <:+: "loop".toList := by decide +kernel
  have hread : engine.fileSystem.read "loop" = .ok source := rfl
  obtain ⟨-, -, hexceeded, hlast, -, -⟩ := parse_limit engine source
  have hparse : engine.parse source = .error (.includeDepthExceeded "loop" 2) :=
    (hexceeded "loop" 2).2 ⟨rfl, ["loop", "loop"], rfl, reaches_itself hquote hcloser hread 2⟩
  have hempty : engine.parse "" = .ok ⟨none, []⟩ := by
    have htokens : tokenize "" = [] := by decide +kernel
    rw [parse, compile_eq, htokens]
    rfl
  refine ⟨hparse, hlast "loop" 2 hparse, ?_⟩
  obtain ⟨-, -, -, -, -, hgreater⟩ := parse_limit engine ""
  refine hgreater 3 (Nat.le_succ 2) fun name reported h => ?_
  rw [hempty] at h
  cases h

end Engine

end Liquid
