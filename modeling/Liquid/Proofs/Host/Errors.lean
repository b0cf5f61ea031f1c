import Liquid.Proofs.FileSystem
import Liquid.Proofs.Host.Parser

/-!
# Errors of a template that has tags of any kind

A template is compiled twice, with includes that have the same results but may end in other errors,
and the errors that it ends in are compared.

- `Related`: two computations with the same result, or with errors that are related.
- `HostTags.Respects`: the parsers of a host keep such a relation between errors.
- `HostTags.parseTokens_related`, `HostEngine.compile_related`: then so does compiling.
- `HostTags.FailsWith`, `HostEngine.compile_failsWith`: the errors themselves, when every error is
  related to itself only, and only if it is one of a kind.
- `Error.withLimit`, `Error.SameUpToLimit`: errors that differ in the limit that they report.
-/

namespace Liquid

open Error (InText)

/-- The same result, or errors that are related. -/
inductive Related {α : Type} (R : Error → Error → Prop) : Except Error α → Except Error α → Prop
    where
  /-- The same result. -/
  | ok (a : α) : Related R (.ok a) (.ok a)
  /-- Errors that are related. -/
  | error {e e' : Error} (h : R e e') : Related R (.error e) (.error e')

namespace Related

variable {α β : Type} {R : Error → Error → Prop} {P : Error → Prop}

theorem of_failsWith (hP : ∀ e, P e → R e e) {x : Except Error α} (hx : FailsWith P x) :
    Related R x x := by
  cases x with
  | error e => exact .error (hP e (hx e rfl))
  | ok a => exact .ok a

theorem failsWith (hR : ∀ e e', R e e' → P e) {x x' : Except Error α} (hx : Related R x x') :
    FailsWith P x := by
  cases hx with
  | error h => exact failsWith_error (hR _ _ h)
  | ok a => exact failsWith_ok P a

theorem mapError_eq {f : Error → Error} {x x' : Except Error α}
    (hx : Related (fun e e' => f e = e') x x') : x.mapError f = x' := by
  cases hx with
  | error h => exact congrArg Except.error h
  | ok a => rfl

theorem bind {x x' : Except Error α} {f f' : α → Except Error β} (hx : Related R x x')
    (hf : ∀ a, Related R (f a) (f' a)) : Related R (x >>= f) (x' >>= f') := by
  cases hx with
  | error h => exact .error h
  | ok a => exact hf a

theorem map {x x' : Except Error α} (hx : Related R x x') (f : α → β) :
    Related R (f <$> x) (f <$> x') := by
  cases hx with
  | error h => exact .error h
  | ok a => exact .ok (f a)

end Related

/-- The parsers of a host do the same twice: errors that they are the first to find are related to
themselves, and what they make of related errors is related. -/
structure HostTags.Respects (R : Error → Error → Prop) (host : HostTags) : Prop where
  /-- A tag is started. -/
  start : ∀ {name markup outcome},
    host.start? name markup = some outcome → Related R outcome outcome
  /-- A block is delimited. -/
  delimit : ∀ {state name markup body outcome},
    host.delimit? state name markup body = some outcome → Related R outcome outcome
  /-- A body is wrong. -/
  recover : ∀ {state e e'}, R e e' → Related R (host.recover state e) (host.recover state e')
  /-- The template ends in a block. -/
  atEnd : ∀ state, Related R (host.atEnd state) (host.atEnd state)

section

variable {host : HostTags} {R : Error → Error → Prop}
  {load load' : String → Except Error (List Node)}
  (htext : ∀ e, InText e → R e e) (hload : ∀ name, Related R (load name) (load' name))
  (hhost : host.Respects R)

/-! ### One template -/

include htext hload in
theorem Block.openBuiltin_related (tag : BuiltinTag) (markup : String) :
    Related R (openBuiltin load tag markup) (openBuiltin load' tag markup) := by
  cases tag with
  | inclusion =>
    refine (Related.of_failsWith htext (Inclusion.parse_failsWith markup)).bind fun header => ?_
    exact (hload header.template).bind fun body => .ok _
  | assign | capture | comment | raw | cycle | loop | branch | negatedBranch | case | table =>
    exact .of_failsWith htext (Block.openBuiltin_failsWith (fun _ he => he) (by rintro _ ⟨⟩))

include htext hload in
theorem Progress.read_related {tags : Keyed CustomTag} (p : Progress) (t : Token)
    (rest : List Token) : Related R (p.read ⟨tags, load⟩ t rest) (p.read ⟨tags, load'⟩ t rest) := by
  cases hinclusion : p.inclusion? t with
  | none =>
    rw [Progress.read_congr hinclusion]
    exact .of_failsWith htext (Progress.read_failsWith hinclusion)
  | some header =>
    rw [Progress.read_inclusion hinclusion, Progress.read_inclusion hinclusion]
    exact (hload header.template).map _

namespace HostProgress

variable (p : HostProgress host)

theorem unknownTag_inText (name markup : String) : InText (p.unknownTag name markup) := by
  unfold unknownTag
  split
  · split <;> trivial
  · trivial

include hhost in
theorem recover_related (frames : List (host.OpenBlock × List Node)) {e e' : Error} (h : R e e') :
    Related R (recover frames e) (recover frames e') := by
  induction frames generalizing e e' with
  | nil => exact .error h
  | cons frame outer ih =>
    obtain ⟨block | state, before⟩ := frame
    · exact ih h
    · have hrecover : Related R (host.recover state e) (host.recover state e') := hhost.recover h
      rw [recover, recover]
      revert hrecover
      generalize host.recover state e = x, host.recover state e' = x'
      rintro (outcome | h')
      · exact .ok _
      · exact ih h'

include hhost in
theorem orRecover_related (frames : List (host.OpenBlock × List Node))
    {x x' : Except Error (HostProgress host)} (h : Related R x x') :
    Related R (orRecover frames x) (orRecover frames x') := by
  cases h with
  | ok p => exact .ok p
  | error h => exact recover_related hhost frames h

include htext hhost in
theorem close_related (frames : List (host.OpenBlock × List Node))
    {body body' : Except Error (List Node)} (hbody : Related R body body') :
    Related R (close frames body) (close frames body') := by
  induction frames generalizing body body' with
  | nil => exact hbody
  | cons frame outer ih =>
    obtain ⟨block | state, before⟩ := frame
    · exact ih (hbody.bind fun _ => .error (htext _ trivial))
    · refine ih (Related.map ?_ _)
      cases hbody with
      | ok nodes => exact hhost.atEnd state
      | error h =>
        refine (hhost.recover h).bind fun outcome => ?_
        cases outcome with
        | node node => exact .ok node
        | block state => exact hhost.atEnd state

include htext hload hhost

theorem openTag_related (name rest markup : String) :
    Related R (p.openTag load name rest markup) (p.openTag load' name rest markup) := by
  unfold openTag
  split
  · exact (Block.openBuiltin_related htext hload _ rest).map _
  · split
    · next outcome hstart => exact (hhost.start hstart).map _
    · exact .error (htext _ (p.unknownTag_inText name markup))

theorem readTag_related (name rest markup : String) :
    Related R (p.readTag load name rest markup) (p.readTag load' name rest markup) := by
  have hopen := p.openTag_related htext hload hhost name rest markup
  unfold readTag
  split
  · exact hopen
  · next block before outer _ =>
    split
    · exact orRecover_related hhost _ hopen
    · next outcome hdelimit =>
      refine orRecover_related hhost _ (Related.map ?_ _)
      cases block with
      | inl block =>
        obtain ⟨step, hstep, rfl⟩ := Option.map_eq_some_iff.1 hdelimit
        exact (Related.of_failsWith htext (Block.delimit?_failsWith hstep)).map _
      | inr state =>
        obtain ⟨step, hstep, rfl⟩ := Option.map_eq_some_iff.1 hdelimit
        exact (hhost.delimit hstep).map _

theorem read_related (t : Token) (tokens : List Token) :
    Related R (p.read load t tokens) (p.read load' t tokens) := by
  unfold read
  split
  · split
    · exact recover_related hhost _ (htext _ trivial)
    · exact p.readTag_related htext hload hhost _ _ _
  · exact orRecover_related hhost _ ((Progress.read_related htext hload _ _ _).map _)

theorem readAll_related (tokens : List Token) :
    Related R (p.readAll load tokens) (p.readAll load' tokens) := by
  induction tokens generalizing p with
  | nil => exact .ok p
  | cons t rest ih => exact (p.read_related htext hload hhost t rest).bind ih

end HostProgress

include htext hload hhost in
/-- Where included templates end in related errors, so does what includes them. -/
theorem HostTags.parseTokens_related (tokens : List Token) :
    Related R (host.parseTokens load tokens) (host.parseTokens load' tokens) := by
  refine (HostProgress.readAll_related htext hload hhost _ tokens).bind fun p => ?_
  exact HostProgress.close_related htext hhost p.frames
    (.of_failsWith htext p.body.finish_failsWith)

end

/-! ### All templates -/

/-- How many includes may be nested is one thing, the limit that errors report another. The
induction is on the depth that is left for includes. -/
theorem HostEngine.compile_related {engine : HostEngine} {R : Error → Error → Prop}
    {limit limit' : Nat} (htext : ∀ e, InText e → R e e)
    (hfiles : ∀ e, Error.InFileSystem e → R e e)
    (hlimit : ∀ name, R (.includeDepthExceeded name limit) (.includeDepthExceeded name limit'))
    (hhost : engine.tags.Respects R) (depth : Nat) (source : String) :
    Related R ({ engine with maxIncludeDepth := limit }.compile depth source)
      ({ engine with maxIncludeDepth := limit' }.compile depth source) := by
  induction depth generalizing source with
  | zero => exact HostTags.parseTokens_related htext (fun name => .error (hlimit name)) hhost _
  | succ depth ih =>
    refine HostTags.parseTokens_related htext (fun name => ?_) hhost _
    exact (Related.of_failsWith hfiles (FileSystem.read_failsWith _ name)).bind ih

/-! ### Errors of one kind -/

/-- The parsers of the host end in errors that satisfy `P`, when the bodies they read do. -/
structure HostTags.FailsWith (P : Error → Prop) (host : HostTags) : Prop where
  /-- A tag is started with such an error, if with any. -/
  start : ∀ {name markup outcome},
    host.start? name markup = some outcome → Liquid.FailsWith P outcome
  /-- So is a block delimited. -/
  delimit : ∀ {state name markup body outcome},
    host.delimit? state name markup body = some outcome → Liquid.FailsWith P outcome
  /-- What is made of such an error in a body is one, if it is an error. -/
  recover : ∀ {state e}, P e → Liquid.FailsWith P (host.recover state e)
  /-- So is what is made of the end of the template. -/
  atEnd : ∀ state, Liquid.FailsWith P (host.atEnd state)

theorem HostTags.FailsWith.respects {P : Error → Prop} {host : HostTags} (h : host.FailsWith P) :
    host.Respects fun e e' => e = e' ∧ P e where
  start hstart := .of_failsWith (fun _ he => ⟨rfl, he⟩) (h.start hstart)
  delimit hdelimit := .of_failsWith (fun _ he => ⟨rfl, he⟩) (h.delimit hdelimit)
  recover := by
    rintro state e _ ⟨rfl, he⟩
    exact .of_failsWith (fun _ he => ⟨rfl, he⟩) (h.recover he)
  atEnd state := .of_failsWith (fun _ he => ⟨rfl, he⟩) (h.atEnd state)

/-- With tags that end in errors of compiling only, so does compiling. -/
theorem HostEngine.compile_failsWith {engine : HostEngine}
    (hhost : engine.tags.FailsWith (·.isParseError = true)) (depth : Nat) (source : String) :
    FailsWith (·.isParseError = true) (engine.compile depth source) := by
  have hrelated : Related (fun e e' => e = e' ∧ e.isParseError = true)
      (engine.compile depth source) (engine.compile depth source) :=
    HostEngine.compile_related (fun e he => ⟨rfl, Error.isParseError_of_inText he⟩)
      (fun e he => ⟨rfl, Error.isParseError_of_inFileSystem he⟩) (fun name => ⟨rfl, rfl⟩)
      hhost.respects depth source
  exact hrelated.failsWith fun e e' he => he.2

/-! ### Errors up to the limit -/

/-- The error with another limit of nested includes. -/
def Error.withLimit (limit : Nat) : Error → Error
  | .includeDepthExceeded name _ => .includeDepthExceeded name limit
  | e => e

theorem Error.withLimit_of_inText {limit : Nat} {e : Error} (h : InText e) :
    e.withLimit limit = e := by
  cases e with
  | includeDepthExceeded => exact h.elim
  | _ => rfl

theorem Error.withLimit_of_inFileSystem {limit : Nat} {e : Error} (h : e.InFileSystem) :
    e.withLimit limit = e := by
  cases e with
  | includeDepthExceeded => exact h.elim
  | _ => rfl

/-- The same error, or the same but for the limit that it reports. -/
inductive Error.SameUpToLimit (limit limit' : Nat) : Error → Error → Prop where
  /-- The same error. -/
  | refl (e : Error) : SameUpToLimit limit limit' e e
  /-- Includes are nested too deep for one limit and for the other. -/
  | exceeded (name : String) : SameUpToLimit limit limit' (.includeDepthExceeded name limit)
      (.includeDepthExceeded name limit')

/-- A registered tag does not report the limit, and passes on an error that does. -/
theorem CustomTag.host_respects_withLimit (tags : Keyed CustomTag) (limit : Nat) :
    (CustomTag.host tags).Respects fun e e' => e.withLimit limit = e' where
  start h := by
    obtain ⟨custom, -, rfl⟩ := Option.map_eq_some_iff.1 h
    exact (Related.of_failsWith (fun _ => Error.withLimit_of_inText)
      (Block.openCustom_failsWith custom _ _)).map _
  delimit h := by
    obtain ⟨step, hstep, rfl⟩ := Option.map_eq_some_iff.1 h
    exact (Related.of_failsWith (fun _ => Error.withLimit_of_inText)
      (Block.delimit?_failsWith hstep)).map _
  recover h := .error h
  atEnd block := .error rfl

/-- With another limit, the same errors are reported, but for the limit. -/
theorem Engine.compile_withLimit (engine : Engine) (limit depth : Nat) (source : String) :
    { engine with maxIncludeDepth := limit }.compile depth source =
      (engine.compile depth source).mapError (Error.withLimit limit) := by
  have hrelated : Related (fun e e' => e.withLimit limit = e')
      ({ engine.host with maxIncludeDepth := engine.maxIncludeDepth }.compile depth source)
      ({ engine.host with maxIncludeDepth := limit }.compile depth source) :=
    HostEngine.compile_related (fun _ => Error.withLimit_of_inText)
      (fun _ => Error.withLimit_of_inFileSystem) (fun _ => rfl)
      (CustomTag.host_respects_withLimit engine.tags limit) depth source
  rw [compile_eq_host, compile_eq_host]
  exact hrelated.mapError_eq.symm

end Liquid
