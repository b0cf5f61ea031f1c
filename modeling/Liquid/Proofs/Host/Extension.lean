import Liquid.Proofs.FileSystem
import Liquid.Proofs.Host.Sequence

/-!
# More tags and more templates

A tag is first taken as a delimiter of the innermost open block, then as a built-in tag, and only
then as one of the host. So a host that knows further tags reads whatever compiled without them as
it was read before, in every block and in every included template. Only an error may go away, where
a name was unknown; a host that makes something of such an error in a body makes something else of
the body that is without it.

- `HostTags.Extends`, `HostEngine.Extends`: one host knows whatever another knows, and may know
  more.
- `Error.OfUnknownName`: the errors that more tags and more templates can do away with.
- `SameUnless`: two computations that come to the same, unless the first is an error of a kind.
- `HostProgress.transfer`: what has been read, as it is for the other host.
- `HostProgress.readAll_sameUnless`, `HostEngine.compile_sameUnless`: reading with more tags and
  templates comes to the same, unless it was an error of a name.
- `Engine.Addition`: a tag, a library or a template that is added to an engine.
- `Engine.parse_of_additions`: under new names, additions change no template that compiled.
- `Engine.parse_of_additions_fails`: unless a tag prints the error of its body.
-/

namespace Liquid

/-- `host'` has all parsers of `host` under the names they have there, and it may have others. What
`host` keeps of an open block, `host'` keeps as `keep` says. -/
structure HostTags.Extends (host' host : HostTags) (keep : host.State → host'.State) : Prop where
  /-- A tag of `host` starts in `host'` what it starts in `host`. -/
  start : ∀ name markup outcome, host.start? name markup = some outcome →
    host'.start? name markup = some (Outcome.map keep <$> outcome)
  /-- An open block has the same delimiters, and they do the same. -/
  delimit : ∀ state name markup body, host'.delimit? (keep state) name markup body =
    (host.delimit? state name markup body).map fun outcome => Outcome.map keep <$> outcome
  /-- The same is made of an error in a body. -/
  recover : ∀ state e, host'.recover (keep state) e = Outcome.map keep <$> host.recover state e
  /-- The same is made of the end of the template. -/
  atEnd : ∀ state, host'.atEnd (keep state) = host.atEnd state

/-- `engine'` knows the tags of `engine` and has its templates, and it may have others of both. -/
structure HostEngine.Extends (engine' engine : HostEngine)
    (keep : engine.tags.State → engine'.tags.State) : Prop where
  /-- The tags. -/
  tags : engine'.tags.Extends engine.tags keep
  /-- A template that can be had has the same source. -/
  sources : ∀ name source, engine.fileSystem.read name = .ok source →
    engine'.fileSystem.read name = .ok source
  /-- Includes may be nested as deep. -/
  depth : engine'.maxIncludeDepth = engine.maxIncludeDepth

/-- Errors that go away when a further tag or template is known. -/
def Error.OfUnknownName : Error → Prop
  | unknownTag .. | markup (.misplacedEnd ..) _ | missingInclude _ | illegalTemplateName _ => True
  | _ => False

theorem Error.ofUnknownName_of_inFileSystem {e : Error} (h : e.InFileSystem) : e.OfUnknownName := by
  cases e with
  | missingInclude | illegalTemplateName => trivial
  | markup | unknownTag | unterminatedBlock | includeDepthExceeded | filter | globalScope | render
  | configuration | io | dateWithoutZone | contradictoryOrder => exact h.elim

theorem HostProgress.ofUnknownName_unknownTag {host : HostTags} (p : HostProgress host)
    (name markup : String) : (p.unknownTag name markup).OfUnknownName := by
  unfold unknownTag
  split
  · split <;> trivial
  · trivial

/-- The same, unless the first is an error of the kind `P`. -/
inductive SameUnless {α : Type} (P : Error → Prop) : Except Error α → Except Error α → Prop where
  /-- The same. -/
  | same (x : Except Error α) : SameUnless P x x
  /-- Anything, when there was such an error. -/
  | error {e : Error} (he : P e) (x' : Except Error α) : SameUnless P (.error e) x'

namespace SameUnless

variable {α β γ : Type} {P : Error → Prop} {x x' : Except Error α}

theorem eq_ok {a : α} (h : SameUnless P (.ok a) x') : x' = .ok a := by
  cases h with
  | same => rfl

/-- Results may be passed on in another form. -/
theorem map_bind {g : α → β} {y : Except Error β} {f : α → Except Error γ}
    {f' : β → Except Error γ} (hx : SameUnless P (g <$> x) y)
    (hf : ∀ a, SameUnless P (f a) (f' (g a))) : SameUnless P (x >>= f) (y >>= f') := by
  cases x with
  | error e =>
    cases hx with
    | same => exact .same _
    | error he => exact .error he _
  | ok a =>
    rw [eq_ok hx]
    exact hf a

theorem bind {f f' : α → Except Error β} (hx : SameUnless P x x')
    (hf : ∀ a, SameUnless P (f a) (f' a)) : SameUnless P (x >>= f) (x' >>= f') :=
  map_bind ((id_map x).symm ▸ hx) hf

theorem map (hx : SameUnless P x x') (f : α → β) : SameUnless P (f <$> x) (f <$> x') := by
  cases hx with
  | same => exact .same _
  | error he => exact .error he _

end SameUnless

namespace HostTags.Extends

variable {host host' : HostTags} {keep : host.State → host'.State} (hext : host'.Extends host keep)

include hext

theorem delimitBlock? (block : host.OpenBlock) (name markup : String)
    (body : List Node) :
    host'.delimitBlock? (Sum.map id keep block) name markup body =
      (host.delimitBlock? block name markup body).map fun outcome =>
        Outcome.map (Sum.map id keep) <$> outcome := by
  cases block with
  | inl block =>
    show (block.delimit? name markup body).map _ = ((block.delimit? name markup body).map _).map _
    rw [Option.map_map]
    refine congrFun (congrArg Option.map (funext fun step => ?_)) _
    rcases step with e | block' | node <;> rfl
  | inr state =>
    show (host'.delimit? (keep state) name markup body).map _ =
      ((host.delimit? state name markup body).map _).map _
    rw [hext.delimit, Option.map_map, Option.map_map]
    refine congrFun (congrArg Option.map (funext fun outcome => ?_)) _
    rcases outcome with e | node | state' <;> rfl

theorem close (state : host.State) (body : Except Error (List Node)) :
    host'.close (keep state) body = host.close state body := by
  cases body with
  | ok nodes => exact hext.atEnd state
  | error e =>
    simp only [HostTags.close, hext.recover]
    rcases host.recover state e with e' | node | state'
    · rfl
    · rfl
    · exact hext.atEnd state'

end HostTags.Extends

/-- A built-in tag needs nothing but the included template from outside. -/
theorem Block.openBuiltin_sameUnless {P : Error → Prop}
    {load load' : String → Except Error (List Node)}
    (hload : ∀ name, SameUnless P (load name) (load' name)) (tag : BuiltinTag) (markup : String) :
    SameUnless P (openBuiltin load tag markup) (openBuiltin load' tag markup) := by
  cases tag with
  | inclusion =>
    exact (SameUnless.same (Inclusion.parse markup)).bind fun header =>
      (hload header.template).bind fun nodes => .same _
  | assign | capture | comment | raw | cycle | loop | branch | negatedBranch | case | table =>
    exact .same _

namespace HostProgress

variable {host host' : HostTags}

section

variable (keep : host.State → host'.State)

/-- Open blocks, as the other host keeps them. -/
def transferFrames (frames : List (host.OpenBlock × List Node)) :
    List (host'.OpenBlock × List Node) :=
  frames.map fun frame => (Sum.map id keep frame.1, frame.2)

/-- What has been read, as it is for the other host. -/
def transfer (p : HostProgress host) : HostProgress host' :=
  ⟨p.nodes, transferFrames keep p.frames, p.verbatim⟩

theorem transfer_afterDelimiter (p : HostProgress host) (before : List Node)
    (outer : List (host.OpenBlock × List Node)) (outcome : Outcome host.OpenBlock) :
    (p.afterDelimiter before outer outcome).transfer keep =
      (p.transfer keep).afterDelimiter before (transferFrames keep outer)
        (outcome.map (Sum.map id keep)) := by
  cases outcome with
  | node node => rfl
  | block block => rfl

end

variable {P : Error → Prop} {keep : host.State → host'.State}

section

variable (hext : host'.Extends host keep)

include hext

theorem recover_transferFrames (frames : List (host.OpenBlock × List Node)) (e : Error) :
    recover (transferFrames keep frames) e = transfer keep <$> recover frames e := by
  induction frames generalizing e with
  | nil => rfl
  | cons frame outer ih =>
    obtain ⟨block | state, before⟩ := frame
    · exact ih e
    · simp only [transferFrames, List.map_cons, Sum.map_inr, recover, hext.recover]
      rcases host.recover state e with e' | node | state'
      · exact ih e'
      · rfl
      · rfl

theorem close_transferFrames (frames : List (host.OpenBlock × List Node))
    (body : Except Error (List Node)) :
    close (transferFrames keep frames) body = close frames body := by
  induction frames generalizing body with
  | nil => rfl
  | cons frame outer ih =>
    obtain ⟨block | state, before⟩ := frame
    · exact ih _
    · simp only [transferFrames, List.map_cons, Sum.map_inr, close, hext.close]
      exact ih _

theorem finish_transfer (p : HostProgress host) : (p.transfer keep).finish = p.finish :=
  close_transferFrames hext p.frames p.body.finish

variable (hhost : host.PassesOn P)

include hhost

theorem orRecover_sameUnless (frames : List (host.OpenBlock × List Node))
    {x : Except Error (HostProgress host)} {x' : Except Error (HostProgress host')}
    (h : SameUnless P (transfer keep <$> x) x') :
    SameUnless P (transfer keep <$> orRecover frames x)
      (orRecover (transferFrames keep frames) x') := by
  cases x with
  | ok p =>
    cases h.eq_ok
    exact .same _
  | error e =>
    cases h with
    | same =>
      rw [error_map, orRecover, orRecover, recover_transferFrames hext]
      exact .same _
    | error he =>
      obtain ⟨e', he', hrecover⟩ := exists_recover_error hhost frames he
      rw [orRecover, hrecover]
      exact .error he' _

variable {load load' : String → Except Error (List Node)}
  (hload : ∀ name, SameUnless P (load name) (load' name)) (hP : ∀ e, Error.OfUnknownName e → P e)
  (p : HostProgress host)

include hload hP

omit hhost in
/-- A tag that was known starts the same. -/
theorem openTag_sameUnless (name rest markup : String) :
    SameUnless P (transfer keep <$> p.openTag load name rest markup)
      ((p.transfer keep).openTag load' name rest markup) := by
  unfold openTag
  cases BuiltinTag.ofName? name with
  | some tag =>
    have hstart : ∀ start, (p.startBuiltin start).transfer keep =
        (p.transfer keep).startBuiltin start := by
      intro start
      cases start <;> rfl
    simp only [Functor.map_map, hstart]
    exact (Block.openBuiltin_sameUnless hload tag rest).map _
  | none =>
    cases hknown : host.start? name rest with
    | none => exact .error (hP _ (p.ofUnknownName_unknownTag name markup)) _
    | some outcome =>
      simp only [hext.start name rest outcome hknown]
      rcases outcome with e | node | state <;> exact .same _

/-- A delimiter of an open block stays one, whatever tag is registered under its name. -/
theorem readTag_sameUnless (name rest markup : String) :
    SameUnless P (transfer keep <$> p.readTag load name rest markup)
      ((p.transfer keep).readTag load' name rest markup) := by
  have hopen : SameUnless P (transfer keep <$> p.openTag load name rest markup)
      ((p.transfer keep).openTag load' name rest markup) :=
    openTag_sameUnless hext hload hP p name rest markup
  obtain ⟨nodes, frames, verbatim⟩ := p
  cases frames with
  | nil => exact hopen
  | cons frame outer =>
    obtain ⟨block, before⟩ := frame
    have hdelimit' := hext.delimitBlock? block name rest nodes
    unfold readTag
    simp only [transfer, transferFrames, List.map_cons] at hopen ⊢
    cases hdelimit : host.delimitBlock? block name rest nodes with
    | none =>
      rw [hdelimit] at hdelimit'
      simp only [hdelimit', Option.map_none]
      exact orRecover_sameUnless hext hhost ((block, before) :: outer) hopen
    | some outcome =>
      rw [hdelimit] at hdelimit'
      simp only [hdelimit', Option.map_some]
      refine orRecover_sameUnless hext hhost outer ?_
      cases outcome with
      | error e => exact .same _
      | ok outcome =>
        rw [ok_map, ok_map, ok_map, ok_map, transfer_afterDelimiter]
        exact .same _

theorem read_sameUnless (t : Token) (tokens : List Token) :
    SameUnless P (transfer keep <$> p.read load t tokens)
      ((p.transfer keep).read load' t tokens) := by
  have htag : ∀ name rest markup, SameUnless P (transfer keep <$> p.readTag load name rest markup)
      ((p.transfer keep).readTag load' name rest markup) :=
    readTag_sameUnless hext hhost hload hP p
  obtain ⟨nodes, frames, verbatim⟩ := p
  -- what is no tag has nothing to do with the host
  have hbody : ∀ body : Except Error Progress,
      SameUnless P
        (transfer keep <$> orRecover frames (withBody ⟨nodes, frames, verbatim⟩ <$> body))
        (orRecover (transferFrames keep frames)
          (withBody ⟨nodes, transferFrames keep frames, verbatim⟩ <$> body)) := by
    intro body
    refine orRecover_sameUnless hext hhost frames ?_
    cases body <;> exact .same _
  cases verbatim with
  | some v => exact hbody (.ok (Progress.readVerbatim ⟨nodes, [], some v⟩ t v))
  | none =>
    cases t with
    | literal text => exact hbody _
    | output markup => exact hbody _
    | tag markup =>
      unfold read
      simp only [transfer] at htag ⊢
      cases NamedTag.ofMarkup? markup with
      | none =>
        simp only [recover_transferFrames hext]
        exact .same _
      | some named => exact htag named.1 named.2 markup

/-- Reading with more tags and templates comes to the same, unless it was an error of a name. -/
theorem readAll_sameUnless (tokens : List Token) :
    SameUnless P (transfer keep <$> p.readAll load tokens)
      ((p.transfer keep).readAll load' tokens) := by
  induction tokens generalizing p with
  | nil => exact .same _
  | cons t rest ih =>
    rw [readAll, readAll, map_bind]
    exact (read_sameUnless hext hhost hload hP p t rest).map_bind ih

end

end HostProgress

theorem HostTags.parseTokens_sameUnless {P : Error → Prop} {host host' : HostTags}
    {keep : host.State → host'.State} (hext : host'.Extends host keep) (hhost : host.PassesOn P)
    {load load' : String → Except Error (List Node)}
    (hload : ∀ name, SameUnless P (load name) (load' name))
    (hP : ∀ e, Error.OfUnknownName e → P e) (tokens : List Token) :
    SameUnless P (host.parseTokens load tokens) (host'.parseTokens load' tokens) := by
  have hread : SameUnless P _ (HostProgress.readAll load' ({} : HostProgress host') tokens) :=
    HostProgress.readAll_sameUnless hext hhost hload hP {} tokens
  refine hread.map_bind fun p => ?_
  rw [HostProgress.finish_transfer hext]
  exact .same _

namespace HostEngine

variable {P : Error → Prop} {engine engine' : HostEngine}
  {keep : engine.tags.State → engine'.tags.State}

/-- In every include, too, more tags and templates change nothing but errors of names. -/
theorem compile_sameUnless (hext : engine'.Extends engine keep) (hhost : engine.tags.PassesOn P)
    (hP : ∀ e, Error.OfUnknownName e → P e) (depth : Nat) (source : String) :
    SameUnless P (engine.compile depth source) (engine'.compile depth source) := by
  induction depth generalizing source with
  | zero =>
    refine HostTags.parseTokens_sameUnless hext.tags hhost (fun name => ?_) hP _
    rw [hext.depth]
    exact .same _
  | succ depth ih =>
    refine HostTags.parseTokens_sameUnless hext.tags hhost (fun name => ?_) hP _
    cases hread : engine.fileSystem.read name with
    | error e =>
      have hname : e.OfUnknownName :=
        Error.ofUnknownName_of_inFileSystem (FileSystem.read_failsWith _ _ _ hread)
      exact .error (hP e hname) _
    | ok text =>
      rw [hext.sources name text hread]
      exact ih text

theorem parse_of_extends (hext : engine'.Extends engine keep) (hhost : engine.tags.PassesOn P)
    (hP : ∀ e, Error.OfUnknownName e → P e) {source : String} {template : Template}
    (h : engine.parse source = .ok template) : engine'.parse source = .ok template := by
  obtain ⟨nodes, hnodes, htemplate⟩ := bind_eq_ok_iff.1 h
  have hcompile := compile_sameUnless hext hhost hP engine.maxIncludeDepth source
  rw [hnodes] at hcompile
  rw [← hext.depth] at hcompile
  exact bind_eq_ok_iff.2 ⟨nodes, hcompile.eq_ok, htemplate⟩

end HostEngine

/-! ### Additions to an engine -/

/-- The registered tags of one engine are among those of another. -/
theorem CustomTag.host_extends {tags tags' : Keyed CustomTag}
    (h : ∀ name tag, Keyed.get? name tags = some tag → Keyed.get? name tags' = some tag) :
    (host tags').Extends (host tags) id where
  start name markup outcome hstart := by
    obtain ⟨tag, htag, rfl⟩ := Option.map_eq_some_iff.1 hstart
    refine Option.map_eq_some_iff.2 ⟨tag, h name tag htag, ?_⟩
    rcases Block.openCustom tag name markup with e | start
    · rfl
    · cases start <;> rfl
  delimit := by
    intro (block : Block) name markup body
    simp only [host, id]
    cases block.delimit? name markup body with
    | none => rfl
    | some step => rcases step with e | block' | node <;> rfl
  recover _ _ := rfl
  atEnd _ := rfl

namespace Engine

/-- What a host can add to an engine after it has compiled templates with it. -/
inductive Addition where
  /-- A tag. -/
  | tag (name : String) (tag : CustomTag)
  /-- The tags and filters of a library. -/
  | library (library : Library)
  /-- A template of the file system. -/
  | template (name source : String)

/-- Adds it. -/
def add (engine : Engine) : Addition → Engine
  | .tag name tag => engine.registerTag name tag
  | .library library => engine.registerLibrary library
  | .template name source => { engine with fileSystem := engine.fileSystem.add name source }

/-- No tag and no template of the engine has a name under which something is added. Names of
built-in tags and of delimiters may be among them. -/
def IsNew (engine : Engine) : Addition → Prop
  | .tag name _ => Keyed.get? name engine.tags = none
  | .library library => ∀ entry ∈ library.tags, Keyed.get? entry.1 engine.tags = none
  | .template name _ => ∀ source, engine.fileSystem.read name ≠ .ok source

/-- `engine'` has the tags and the templates of `engine`, and maybe others. -/
structure Extends (engine' engine : Engine) : Prop where
  /-- The tags. -/
  tags : ∀ name tag, Keyed.get? name engine.tags = some tag →
    Keyed.get? name engine'.tags = some tag
  /-- The templates. -/
  sources : ∀ name source, engine.fileSystem.read name = .ok source →
    engine'.fileSystem.read name = .ok source
  /-- The limit of nested includes. -/
  depth : engine'.maxIncludeDepth = engine.maxIncludeDepth

variable {engine engine' : Engine}

theorem Extends.host (h : engine'.Extends engine) : engine'.host.Extends engine.host id where
  tags := CustomTag.host_extends h.tags
  sources := h.sources
  depth := h.depth

theorem extends_refl (engine : Engine) : engine.Extends engine where
  tags _ _ h := h
  sources _ _ h := h
  depth := rfl

/-- Further names hide nothing. -/
theorem Extends.add (h : engine'.Extends engine) {addition : Addition}
    (hnew : engine.IsNew addition) : (engine'.add addition).Extends engine := by
  cases addition with
  | tag name tag =>
    refine ⟨fun other old hold => ?_, h.sources, h.depth⟩
    refine Keyed.get?_insert_of_some (fun hname => ?_) (h.tags other old hold)
    have hnone : Keyed.get? name engine.tags = none := hnew
    rw [hname, hold] at hnone
    cases hnone
  | library library =>
    refine ⟨fun other old hold => ?_, h.sources, h.depth⟩
    refine Keyed.get?_insertAll_of_some (fun entry hentry hname => ?_) (h.tags other old hold)
    have hnone := hnew entry hentry
    rw [hname, hold] at hnone
    cases hnone
  | template name source =>
    refine ⟨h.tags, fun other old hold => ?_, h.depth⟩
    have hname : name ≠ other := fun hname => hnew old (hname ▸ hold)
    exact FileSystem.read_add_of_ne hname (h.sources other old hold)

theorem Extends.addAll (h : engine'.Extends engine) {additions : List Addition}
    (hnew : ∀ addition ∈ additions, engine.IsNew addition) :
    (additions.foldl Engine.add engine').Extends engine := by
  induction additions generalizing engine' with
  | nil => exact h
  | cons addition rest ih =>
    exact ih (h.add (hnew addition List.mem_cons_self))
      fun other hother => hnew other (List.mem_cons_of_mem addition hother)

/-- Tags, libraries and templates that are added under new names change no template that compiled:
it compiles to the same nodes. So it is with the tags that can be registered, and with tags of any
other kind whose parsers make nothing of an error of an unknown name in one of their bodies. -/
theorem parse_of_additions :
    (∀ (engine : Engine) (additions : List Addition),
      (∀ addition ∈ additions, engine.IsNew addition) →
      ∀ source template, engine.parse source = .ok template →
        (additions.foldl add engine).parse source = .ok template)
    ∧ ∀ (engine engine' : HostEngine) (keep : engine.tags.State → engine'.tags.State)
        (P : Error → Prop),
      (∀ e, Error.OfUnknownName e → P e) → engine.tags.PassesOn P → engine'.Extends engine keep →
      ∀ source template, engine.parse source = .ok template →
        engine'.parse source = .ok template := by
  refine ⟨fun engine additions hnew source template h => ?_, ?_⟩
  · have hext : (additions.foldl add engine).Extends engine := (extends_refl engine).addAll hnew
    rw [parse_eq_host] at h ⊢
    exact HostEngine.parse_of_extends hext.host
      (CustomTag.host_passesOn engine.tags Error.OfUnknownName) (fun e he => he) h
  · intro engine engine' keep P hP hhost hext source template
    exact HostEngine.parse_of_extends hext hhost hP

/-- Tags that are called like a delimiter, an end tag and built-in tags, and a further template. -/
theorem parse_of_additions_delimiters :
    let shout := CustomTag.block (· ++ "!")
    let silent := CustomTag.simple fun _ => ""
    let engine : Engine :=
      { fileSystem := .memory [("p", "{% shout %}x{% endshout %}")], tags := [("shout", shout)] }
    let additions : List Addition :=
      [.tag "else" silent, .tag "endshout" shout, .template "q" "",
        .library { name := "more", tags := [("include", silent), ("comment", shout)] }]
    let source :=
      "{% shout %}\x7b% include 'p' %\x7d{% comment %}{% else %}{% endcomment %}b{% endshout %}"
    (∀ addition ∈ additions, engine.IsNew addition)
      ∧ engine.host.tags.PassesOn Error.OfUnknownName
      ∧ (additions.foldl add engine).host.Extends engine.host (id : Block → Block)
      ∧ ∃ template, engine.parse source = .ok template
        ∧ (additions.foldl add engine).parse source = .ok template
        ∧ (additions.foldl add engine).host.parse source = .ok template := by
  intro shout silent engine additions source
  have hnew : ∀ addition ∈ additions, engine.IsNew addition := by
    simp only [additions, List.forall_mem_cons]
    refine ⟨rfl, rfl, fun text h => ?_, ?_, fun addition h => ?_⟩
    · cases h
    · show ∀ entry ∈ [("include", silent), ("comment", shout)],
        Keyed.get? entry.1 engine.tags = none
      simp [engine, Keyed.get?]
    · cases h
  have hhost : engine.host.tags.PassesOn Error.OfUnknownName :=
    CustomTag.host_passesOn engine.tags _
  have hext : (additions.foldl add engine).host.Extends engine.host (id : Block → Block) :=
    ((extends_refl engine).addAll hnew).host
  have hparse : (engine.parse source).toOption.isSome = true := by decide +kernel
  obtain ⟨template, htemplate⟩ := Option.isSome_iff_exists.1 hparse
  rw [toOption_eq_some_iff] at htemplate
  obtain ⟨htags, htagsOfAnyKind⟩ := parse_of_additions
  refine ⟨hnew, hhost, hext, template, htemplate, ?_, ?_⟩
  · exact htags engine additions hnew source template htemplate
  · rw [parse_eq_host] at htemplate
    exact htagsOfAnyKind engine.host (additions.foldl add engine).host (id : Block → Block)
      Error.OfUnknownName (fun e he => he) hhost hext source template htemplate

/-- Where a tag puts out the error in its body, a further tag that is used in the body changes what
is put out. -/
theorem parse_of_additions_fails :
    let engine : HostEngine := ⟨.blank, .catching [], 32⟩
    let engine' : HostEngine := ⟨.blank, .catching ["foo"], 32⟩
    let source := "{% catch %}{% foo %}"
    let c := Context.withFilters []
    engine'.Extends engine (id : Unit → Unit)
      ∧ ∃ template template', engine.parse source = .ok template
        ∧ engine'.parse source = .ok template'
        ∧ (template.render c).1 = .ok "Unknown tag 'foo' in: {% foo %}"
        ∧ (template'.render c).1 = .ok "" := by
  intro engine engine' source c
  have htags : engine'.tags.Extends engine.tags (id : Unit → Unit) := by
    refine ⟨fun name markup outcome h => ?_, fun state name markup body => ?_,
      fun _ _ => rfl, fun _ => rfl⟩
    · by_cases hname : name = "catch"
      · subst hname
        cases h
        rfl
      · have hnone : engine.tags.start? name markup = none := by
          simp only [engine, HostTags.catching, if_neg hname, if_neg List.not_mem_nil]
        rw [hnone] at h
        cases h
    · simp only [engine, engine', HostTags.catching]
      split <;> rfl
  have htokens : tokenize source = [.tag " catch ", .tag " foo "] := by decide +kernel
  exact ⟨⟨htags, fun _ _ h => h, rfl⟩, _, _, HostEngine.parse_of_tokens htokens rfl,
    HostEngine.parse_of_tokens htokens rfl, rfl, rfl⟩

end Engine

end Liquid
