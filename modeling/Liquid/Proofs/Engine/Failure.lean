import Liquid.Proofs.Host.Errors
import Liquid.Proofs.Template.Defined

/-!
# How compiling fails

Reading a template can fail for many reasons, in the template or in one that it includes. All of
them are errors of compiling: whoever compiles need not reckon with an error of a filter, of the
scopes, of the settings or of a file.

- `CustomTag.host_failsWith`: the tags that can be registered end in such errors.
- `HostProgress.commentOpen_readAll`: the comments that are open are counted right, whatever tags a
  host has.
- `HostEngine.parse_failsWith`, `HostEngine.getTemplate_failsWith`: with tags that end in such
  errors, compiling does.
- `Engine.compiling_isSafe`: the same for an engine, and that no step of compiling is undefined.
-/

namespace Liquid

/-- Whatever markup and bodies a registered tag has, what is wrong with it is an error of
compiling. -/
theorem CustomTag.host_failsWith (tags : Keyed CustomTag) :
    (CustomTag.host tags).FailsWith (·.isParseError = true) where
  start h := by
    obtain ⟨custom, -, rfl⟩ := Option.map_eq_some_iff.1 h
    refine FailsWith.map ?_ _
    exact (Block.openCustom_failsWith custom _ _).mono fun e => Error.isParseError_of_inText
  delimit h := by
    obtain ⟨step, hstep, rfl⟩ := Option.map_eq_some_iff.1 h
    refine FailsWith.map ?_ _
    exact (Block.delimit?_failsWith hstep).mono fun e => Error.isParseError_of_inText
  recover he := failsWith_error he
  atEnd block := failsWith_error rfl

/-! ### Comments -/

namespace HostProgress

variable {host : HostTags} {load : String → Except Error (List Node)} {p p' : HostProgress host}

/-- Behind an error no verbatim body is open. -/
theorem verbatim_of_recover {frames : List (host.OpenBlock × List Node)} {e : Error}
    (h : recover frames e = .ok p') : p'.verbatim = none := by
  induction frames generalizing e with
  | nil => cases h
  | cons frame outer ih =>
    obtain ⟨block | state, before⟩ := frame
    · exact ih h
    · rw [recover] at h
      split at h
      · next outcome _ =>
        cases h
        cases outcome <;> rfl
      · exact ih h

theorem eq_ok_or_of_orRecover {frames : List (host.OpenBlock × List Node)}
    {x : Except Error (HostProgress host)} (h : orRecover frames x = .ok p') :
    x = .ok p' ∨ p'.verbatim = none := by
  cases x with
  | ok p => exact .inl h
  | error e => exact .inr (verbatim_of_recover h)

theorem commentOpen_openTag {name rest markup : String} (hp : p.body.CommentOpen)
    (h : p.openTag load name rest markup = .ok p') : p'.body.CommentOpen := by
  unfold openTag at h
  split at h
  · obtain ⟨start, -, rfl⟩ := map_eq_ok_iff.1 h
    cases start with
    | block block => exact hp
    | node node => exact hp
    | raw => exact hp.start .raw
    | comment => exact hp.start .comment
  split at h
  · obtain ⟨outcome, -, rfl⟩ := map_eq_ok_iff.1 h
    cases outcome with
    | node node => exact hp
    | block state => exact hp
  · cases h

theorem commentOpen_readTag {name rest markup : String} (hp : p.body.CommentOpen)
    (h : p.readTag load name rest markup = .ok p') : p'.body.CommentOpen := by
  unfold readTag at h
  split at h
  · exact commentOpen_openTag hp h
  split at h
  · rcases eq_ok_or_of_orRecover h with hopen | hnone
    · exact commentOpen_openTag hp hopen
    · exact .of_none hnone
  · rcases eq_ok_or_of_orRecover h with hdelimit | hnone
    · obtain ⟨outcome, -, rfl⟩ := map_eq_ok_iff.1 hdelimit
      cases outcome with
      | node node => exact hp
      | block block => exact hp
    · exact .of_none hnone

theorem commentOpen_read {t : Token} {tokens : List Token} (hp : p.body.CommentOpen)
    (h : p.read load t tokens = .ok p') : p'.body.CommentOpen := by
  unfold read at h
  split at h
  · split at h
    · exact .of_none (verbatim_of_recover h)
    · exact commentOpen_readTag hp h
  · rcases eq_ok_or_of_orRecover h with hread | hnone
    · obtain ⟨q, hq, rfl⟩ := map_eq_ok_iff.1 hread
      have hread : q.CommentOpen := hp.read hq
      exact hread
    · exact .of_none hnone

/-- Wherever reading stands in a comment, at least one comment is open. -/
theorem commentOpen_readAll {tokens : List Token} (hp : p.body.CommentOpen)
    (h : p.readAll load tokens = .ok p') : p'.body.CommentOpen := by
  induction tokens generalizing p with
  | nil =>
    cases h
    exact hp
  | cons t rest ih =>
    obtain ⟨next, hnext, h⟩ := bind_eq_ok_iff.1 h
    exact ih (commentOpen_read hp hnext) h

end HostProgress

/-! ### Errors -/

namespace HostEngine

variable {engine : HostEngine} (hhost : engine.tags.FailsWith (·.isParseError = true))

include hhost

theorem parse_failsWith (source : String) :
    FailsWith (·.isParseError = true) (engine.parse source) :=
  (compile_failsWith hhost _ source).bind fun _ => failsWith_ok _ _

theorem getTemplate_failsWith (name : String) :
    FailsWith (·.isParseError = true) (engine.getTemplate name) := by
  refine FailsWith.bind ?_ fun source => ?_
  · exact (FileSystem.read_failsWith _ name).mono fun e => Error.isParseError_of_inFileSystem
  · exact (compile_failsWith hhost _ source).bind fun _ => failsWith_ok _ _

end HostEngine

namespace Engine

/-- Compiling a source or a template fails with errors of compiling only, with the tags that can be
registered and with any others whose parsers do, and no step on the way is undefined. -/
theorem compiling_isSafe :
    (∀ engine : Engine,
      (∀ source, FailsWith (·.isParseError = true) (engine.parse source))
        ∧ ∀ name, FailsWith (·.isParseError = true) (engine.getTemplate name))
    ∧ (∀ engine : HostEngine, engine.tags.FailsWith (·.isParseError = true) →
      (∀ source, FailsWith (·.isParseError = true) (engine.parse source))
        ∧ ∀ name, FailsWith (·.isParseError = true) (engine.getTemplate name))
    ∧ ReadsWithin
    ∧ ∀ (host : HostTags) (load : String → Except Error (List Node)) (tokens : List Token)
        (p : HostProgress host) (depth : Nat),
      HostProgress.readAll load {} tokens = .ok p → p.verbatim = some (.comment depth) →
        0 < depth := by
  have hhost : ∀ engine : HostEngine, engine.tags.FailsWith (·.isParseError = true) →
      (∀ source, FailsWith (·.isParseError = true) (engine.parse source))
        ∧ ∀ name, FailsWith (·.isParseError = true) (engine.getTemplate name) :=
    fun engine h => ⟨HostEngine.parse_failsWith h, HostEngine.getTemplate_failsWith h⟩
  refine ⟨fun engine => ?_, hhost, readsWithin, ?_⟩
  · obtain ⟨hparse, hget⟩ := hhost engine.host (CustomTag.host_failsWith engine.tags)
    refine ⟨fun source => ?_, fun name => ?_⟩
    · rw [parse_eq_host]
      exact hparse source
    · rw [getTemplate_eq_host]
      exact hget name
  · intro host load tokens p depth hread
    exact HostProgress.commentOpen_readAll (.of_none rfl) hread depth

/-- A registered block and a comment, neither of which is closed. -/
theorem compiling_isSafe_open_block :
    let engine : Engine := { tags := [("shout", .block (· ++ "!"))], maxIncludeDepth := 0 }
    let comment : HostProgress engine.host.tags := ⟨[], [], some (.comment 1)⟩
    engine.host.parse "{% shout %}" = .error (.unterminatedBlock "shout")
      ∧ (Error.unterminatedBlock "shout").isParseError = true
      ∧ HostProgress.readAll (fun _ => .ok []) {} (tokenize "{% comment %}") = .ok comment
      ∧ 0 < 1 := by
  intro engine comment
  have hshout : tokenize "{% shout %}" = [.tag " shout "] := by decide +kernel
  have hname : NamedTag.ofMarkup? " shout " = some ("shout", "") := by decide +kernel
  have hparse : engine.host.parse "{% shout %}" = .error (.unterminatedBlock "shout") := by
    rw [← parse_eq_host, parse, compile, hshout, Template.parseTokens, Progress.readAll,
      Progress.read_tag _ rfl hname]
    rfl
  have hcomment : tokenize "{% comment %}" = [.tag " comment "] := by decide +kernel
  have hname : NamedTag.ofMarkup? " comment " = some ("comment", "") := by decide +kernel
  have hread : HostProgress.readAll (fun _ => .ok []) {} (tokenize "{% comment %}") =
      .ok comment := by
    simp only [hcomment, HostProgress.readAll, HostProgress.read, hname]
    rfl
  obtain ⟨-, hhost, -, hcount⟩ := compiling_isSafe
  refine ⟨hparse, ?_, hread, ?_⟩
  · exact (hhost engine.host (CustomTag.host_failsWith _)).1 _ _ hparse
  · exact hcount _ _ _ comment 1 hread rfl

end Engine

end Liquid
