import Liquid.Proofs.Document.Verbatim
import Liquid.Proofs.Template.Inclusions

/-!
# Tags of any kind

A tag that is registered with an engine reads its markup as expressions, and bodies up to its
delimiters. What is said of these tags is said of more: a host may read a tag of its own as it likes,
and as many bodies behind it.

- `HostTags`: how a host reads its tags. After each body it knows what it has kept of those in
  front, and where a body is wrong it may go on behind it.
- `HostTags.catching`: a host that goes on behind errors, as no registered tag does.
- `HostProgress`: what has been read so far; built-in blocks and blocks of the host are open in any
  order.
- `HostProgress.recover`: an error leaves the blocks that are open, up to one that goes on.
- `HostTags.parseTokens`, `HostEngine.parse`, `HostEngine.getTemplate`: compiling with such tags.
- `CustomTag.host`, `Engine.parse_eq_host`, `Engine.getTemplate_eq_host`: the tags that are
  registered with an engine are tags of this kind, and the engine compiles as it would for a host.
-/

namespace Liquid

/-- What comes of a tag. -/
inductive Outcome (B : Type) where
  /-- A node that is finished. -/
  | node (node : Node)
  /-- A block that is open. -/
  | block (block : B)

/-- The same with other names for blocks. -/
def Outcome.map {A B : Type} (f : A → B) : Outcome A → Outcome B
  | node n => node n
  | block b => block (f b)

/-- How a host reads its tags. -/
structure HostTags where
  /-- What the host keeps of a block that is open. -/
  State : Type
  /-- The name by which errors call the block. -/
  tag : State → String
  /-- What a tag starts that is not built in; nothing if the host has no such tag. -/
  start? : (name markup : String) → Option (Except Error (Outcome State))
  /-- What a tag does to a block whose current body is `body`; nothing if it is not one of its
  delimiters. -/
  delimit? : State → (name markup : String) → (body : List Node) →
    Option (Except Error (Outcome State))
  /-- What the host makes of a block whose current body is wrong. -/
  recover : State → Error → Except Error (Outcome State)
  /-- What the host makes of a block that the template ends in. -/
  atEnd : State → Except Error Node

namespace HostTags

variable (host : HostTags)

/-- A block that is open, of the template language or of the host. -/
abbrev OpenBlock := Block ⊕ host.State

/-- The name by which errors call a block. -/
def blockTag : host.OpenBlock → String
  | .inl block => block.tag
  | .inr state => host.tag state

/-- What a step of a built-in block comes to. -/
def ofStep : Block.Step → Outcome host.OpenBlock
  | .next block => .block (.inl block)
  | .done node => .node node

/-- What a tag does to a block; nothing if it is not one of its delimiters. -/
def delimitBlock? (block : host.OpenBlock) (name markup : String) (body : List Node) :
    Option (Except Error (Outcome host.OpenBlock)) :=
  match block with
  | .inl block => (block.delimit? name markup body).map fun step => host.ofStep <$> step
  | .inr state => (host.delimit? state name markup body).map fun outcome =>
    Outcome.map Sum.inr <$> outcome

/-- What comes of a block of the host at the end of the template, when its current body is right or
wrong. -/
def close (state : host.State) : (body : Except Error (List Node)) → Except Error Node
  | .ok _ => host.atEnd state
  | .error e => do
    match ← host.recover state e with
    | .node node => return node
    | .block state => host.atEnd state

/-- A host with a block `catch`, which may end with the template: where something is wrong in its
body, it ends there and puts out the message. The other tags of the host put out nothing. -/
def catching (others : List String) : HostTags where
  State := Unit
  tag _ := "catch"
  start? name _ :=
    if name = "catch" then some (.ok (.block ()))
    else if name ∈ others then some (.ok (.node (.host name {} [] []))) else none
  delimit? _ name _ body :=
    if name = "endcatch" then some (.ok (.node (.host "catch" {} [] [body]))) else none
  recover _ e := .ok (.node (.host "catch" { finish := fun _ _ => e.message } [] []))
  atEnd _ := .ok (.host "catch" {} [] [])

end HostTags

/-- What has been read so far. -/
structure HostProgress (host : HostTags) where
  /-- The body that is being read. -/
  nodes : List Node := []
  /-- The open blocks, the innermost first, each with the nodes in front of it. -/
  frames : List (host.OpenBlock × List Node) := []
  /-- The verbatim body that is being read, if it is one. -/
  verbatim : Option Verbatim := none

namespace HostProgress

variable {host : HostTags} (load : String → Except Error (List Node)) (p : HostProgress host)

/-- The body that is being read, as if no block were open. -/
def body : Progress := ⟨p.nodes, [], p.verbatim⟩

/-- The same blocks around another body. -/
def withBody (q : Progress) : HostProgress host :=
  { p with nodes := q.nodes, verbatim := q.verbatim }

/-- Opens a block. -/
def push (block : host.OpenBlock) : HostProgress host :=
  { p with nodes := [], frames := (block, p.nodes) :: p.frames }

/-- Puts into effect what a built-in tag starts. -/
def startBuiltin : Block.Start → HostProgress host
  | .block block => p.push (.inl block)
  | start => p.withBody (p.body.start start)

/-- Puts into effect what a tag of the host starts. -/
def start : Outcome host.State → HostProgress host
  | .node node => p.withBody (p.body.add node)
  | .block state => p.push (.inr state)

/-- The error for a tag that nothing knows. -/
def unknownTag (name markup : String) : Error :=
  match p.frames with
  | (block, _) :: _ =>
    if "end".toList.isPrefixOf name.toList then
      .markup (.misplacedEnd name (host.blockTag block)) (Progress.tagText markup)
    else .unknownTag name (Progress.tagText markup)
  | [] => .unknownTag name (Progress.tagText markup)

/-- Reads a tag that is no delimiter. -/
def openTag (name rest markup : String) : Except Error (HostProgress host) :=
  match BuiltinTag.ofName? name with
  | some tag => p.startBuiltin <$> Block.openBuiltin load tag rest
  | none =>
    match host.start? name rest with
    | some outcome => p.start <$> outcome
    | none => .error (p.unknownTag name markup)

/-- Puts into effect what a delimiter does to the innermost block, which stands behind the nodes
`before`. -/
def afterDelimiter (before : List Node) (outer : List (host.OpenBlock × List Node)) :
    Outcome host.OpenBlock → HostProgress host
  | .node node => { p with nodes := before ++ [node], frames := outer }
  | .block block => { p with nodes := [], frames := (block, before) :: outer }

/-- What comes of an error inside blocks. The innermost block of the host that goes on behind it
does so; the blocks inside that one are left. -/
def recover : (frames : List (host.OpenBlock × List Node)) → Error →
    Except Error (HostProgress host)
  | [], e => .error e
  | (.inl _, _) :: outer, e => recover outer e
  | (.inr state, before) :: outer, e =>
    match host.recover state e with
    | .ok outcome => .ok (afterDelimiter {} before outer (outcome.map Sum.inr))
    | .error e => recover outer e

/-- Goes on behind an error inside blocks, if there is one. -/
def orRecover (frames : List (host.OpenBlock × List Node)) :
    Except Error (HostProgress host) → Except Error (HostProgress host)
  | .ok p => .ok p
  | .error e => recover frames e

/-- Reads a tag. An error in a delimiter is one of the block, and so inside those around it. -/
def readTag (name rest markup : String) : Except Error (HostProgress host) :=
  match p.frames with
  | [] => p.openTag load name rest markup
  | (block, before) :: outer =>
    match host.delimitBlock? block name rest p.nodes with
    | none => orRecover p.frames (p.openTag load name rest markup)
    | some outcome => orRecover outer (p.afterDelimiter before outer <$> outcome)

/-- Reads a token; `rest` are the tokens behind it. Only tags have to do with blocks. -/
def read (token : Token) (rest : List Token) : Except Error (HostProgress host) :=
  match p.verbatim, token with
  | none, .tag markup =>
    match NamedTag.ofMarkup? markup with
    | none => recover p.frames (.markup .unnamedTag (Progress.tagText markup))
    | some (name, rest) => p.readTag load name rest markup
  | _, token => orRecover p.frames (p.withBody <$> p.body.read ⟨[], load⟩ token rest)

/-- What comes of open blocks at the end of the template, when the body of the innermost one is
right or wrong. The end closes no block of the template language. -/
def close : (frames : List (host.OpenBlock × List Node)) → Except Error (List Node) →
    Except Error (List Node)
  | [], body => body
  | (.inl block, _) :: outer, body =>
    close outer (body >>= fun _ => .error (.unterminatedBlock block.tag))
  | (.inr state, before) :: outer, body =>
    close outer ((fun node => before ++ [node]) <$> host.close state body)

/-- The tree, if every open block may end with the template. -/
def finish : Except Error (List Node) := close p.frames p.body.finish

/-- Reads all tokens. -/
def readAll : HostProgress host → List Token → Except Error (HostProgress host)
  | p, [] => .ok p
  | p, token :: rest => do readAll (← p.read load token rest) rest

end HostProgress

/-- The tree of a list of tokens. -/
def HostTags.parseTokens (host : HostTags) (load : String → Except Error (List Node))
    (tokens : List Token) : Except Error (List Node) := do
  (← HostProgress.readAll load ({} : HostProgress host) tokens).finish

/-- What compiling needs from a host with tags of any kind. -/
structure HostEngine where
  /-- Where included templates come from. -/
  fileSystem : FileSystem
  /-- The tags of the host. -/
  tags : HostTags
  /-- How deep includes may be nested. -/
  maxIncludeDepth : Nat

namespace HostEngine

/-- The tree of a source, when includes may be nested `depth` deep. -/
def compile (engine : HostEngine) : (depth : Nat) → (source : String) → Except Error (List Node)
  | 0, source =>
    engine.tags.parseTokens
      (fun name => .error (.includeDepthExceeded name engine.maxIncludeDepth)) (tokenize source)
  | depth + 1, source =>
    engine.tags.parseTokens (fun name => do engine.compile depth (← engine.fileSystem.read name))
      (tokenize source)

/-- Compiles a source. -/
def parse (engine : HostEngine) (source : String) : Except Error Template := do
  return ⟨none, ← engine.compile engine.maxIncludeDepth source⟩

/-- Compiles a template of the file system. -/
def getTemplate (engine : HostEngine) (name : String) : Except Error Template := do
  return ⟨some name, ← engine.compile engine.maxIncludeDepth (← engine.fileSystem.read name)⟩

end HostEngine

/-! ### The registered tags of an engine -/

namespace CustomTag

/-- What a registered tag starts. It never starts a verbatim body. -/
def ofStart : Block.Start → Outcome Block
  | .block block => .block block
  | .node node => .node node
  | .raw | .comment => .node .comment

/-- What a step of a block comes to. -/
def ofStep : Block.Step → Outcome Block
  | .next block => .block block
  | .done node => .node node

/-- Registered tags as the tags of a host, which keeps an open block as it is. -/
def host (tags : Keyed CustomTag) : HostTags where
  State := Block
  tag := Block.tag
  start? name markup := (Keyed.get? name tags).map fun custom =>
    ofStart <$> Block.openCustom custom name markup
  delimit? block name markup body := (block.delimit? name markup body).map fun step =>
    ofStep <$> step
  recover _ e := .error e
  atEnd block := .error (.unterminatedBlock block.tag)

/-- A block, whether it is built in or registered. -/
def openedBlock {tags : Keyed CustomTag} : (host tags).OpenBlock → Block
  | .inl block | .inr block => block

end CustomTag

namespace HostProgress

variable {tags : Keyed CustomTag} {load : String → Except Error (List Node)}
  (p : HostProgress (CustomTag.host tags))

/-- The same, when it does not matter whether a block is built in or registered. -/
def forget : Progress :=
  ⟨p.nodes, p.frames.map fun frame => ⟨CustomTag.openedBlock frame.1, frame.2⟩, p.verbatim⟩

theorem forget_cons {nodes before : List Node} {block : (CustomTag.host tags).OpenBlock}
    {outer : List ((CustomTag.host tags).OpenBlock × List Node)} {verbatim : Option Verbatim} :
    forget ⟨nodes, (block, before) :: outer, verbatim⟩ =
      ⟨nodes, ⟨CustomTag.openedBlock block, before⟩ ::
        outer.map fun frame => ⟨CustomTag.openedBlock frame.1, frame.2⟩, verbatim⟩ := rfl

/-- A registered tag does not go on behind an error. -/
theorem recover_eq (frames : List ((CustomTag.host tags).OpenBlock × List Node)) (e : Error) :
    recover frames e = .error e := by
  induction frames with
  | nil => rfl
  | cons frame outer ih =>
    obtain ⟨block | block, before⟩ := frame
    · exact ih
    · exact ih

theorem orRecover_eq (frames : List ((CustomTag.host tags).OpenBlock × List Node))
    (x : Except Error (HostProgress (CustomTag.host tags))) : orRecover frames x = x := by
  cases x with
  | error e => exact recover_eq frames e
  | ok p => rfl

theorem close_error (frames : List ((CustomTag.host tags).OpenBlock × List Node)) (e : Error) :
    close frames (.error e) = .error e := by
  induction frames with
  | nil => rfl
  | cons frame outer ih =>
    obtain ⟨block | block, before⟩ := frame
    · exact ih
    · exact ih

theorem forget_unknownTag (name markup : String) :
    p.forget.unknownTag name markup = p.unknownTag name markup := by
  obtain ⟨nodes, frames, verbatim⟩ := p
  cases frames with
  | nil => rfl
  | cons frame outer =>
    obtain ⟨block | block, before⟩ := frame
    · rfl
    · rfl

/-- A registered tag is a node by itself or opens a block. -/
theorem forget_start {custom : CustomTag} {name markup : String} {start : Block.Start}
    (h : Block.openCustom custom name markup = .ok start) :
    (p.start (CustomTag.ofStart start)).forget = p.forget.start start := by
  cases start with
  | node node => rfl
  | block block => rfl
  | raw | comment =>
    obtain ⟨arguments, -, hstart⟩ := map_eq_ok_iff.1 h
    unfold Block.startCustom at hstart
    split at hstart
    · cases hstart
    · cases hstart

theorem forget_openTag (name rest markup : String) :
    p.forget.openTag ⟨tags, load⟩ name rest markup =
      forget <$> p.openTag load name rest markup := by
  unfold Progress.openTag openTag
  cases BuiltinTag.ofName? name with
  | some tag =>
    simp only
    cases Block.openBuiltin load tag rest with
    | error e => rfl
    | ok start => cases start <;> rfl
  | none =>
    simp only [CustomTag.host]
    cases Keyed.get? name tags with
    | none => exact congrArg Except.error (p.forget_unknownTag name markup)
    | some custom =>
      simp only [Option.map_some]
      cases hopen : Block.openCustom custom name rest with
      | error e => rfl
      | ok start => exact congrArg Except.ok (p.forget_start hopen).symm

theorem forget_readTag (name rest markup : String) :
    p.forget.readTag ⟨tags, load⟩ name rest markup =
      forget <$> p.readTag load name rest markup := by
  have hopen : p.forget.openTag ⟨tags, load⟩ name rest markup =
      forget <$> p.openTag load name rest markup := p.forget_openTag name rest markup
  obtain ⟨nodes, frames, verbatim⟩ := p
  cases frames with
  | nil => exact hopen
  | cons frame outer =>
    -- built-in or registered, a block knows its delimiters
    obtain ⟨block | block, before⟩ := frame
    · cases hdelimit : block.delimit? name rest nodes with
      | none =>
        have hhost : (CustomTag.host tags).delimitBlock? (.inl block) name rest nodes = none :=
          congrArg (Option.map _) hdelimit
        simp only [Progress.readTag, readTag, forget_cons, CustomTag.openedBlock, hdelimit, hhost,
          orRecover_eq]
        exact hopen
      | some step =>
        have hhost : (CustomTag.host tags).delimitBlock? (.inl block) name rest nodes =
            some ((CustomTag.host tags).ofStep <$> step) := congrArg (Option.map _) hdelimit
        simp only [Progress.readTag, readTag, forget_cons, CustomTag.openedBlock, hdelimit, hhost,
          orRecover_eq]
        rcases step with e | block' | node <;> rfl
    · cases hdelimit : block.delimit? name rest nodes with
      | none =>
        have hhost : (CustomTag.host tags).delimitBlock? (.inr block) name rest nodes = none := by
          simp only [HostTags.delimitBlock?, CustomTag.host, hdelimit, Option.map_none]
        simp only [Progress.readTag, readTag, forget_cons, CustomTag.openedBlock, hdelimit, hhost,
          orRecover_eq]
        exact hopen
      | some step =>
        have hhost : (CustomTag.host tags).delimitBlock? (.inr block) name rest nodes =
            some (Outcome.map Sum.inr <$> CustomTag.ofStep <$> step) := by
          simp only [HostTags.delimitBlock?, CustomTag.host, hdelimit, Option.map_some]
        simp only [Progress.readTag, readTag, forget_cons, CustomTag.openedBlock, hdelimit, hhost,
          orRecover_eq]
        rcases step with e | block' | node <;> rfl

theorem forget_read (t : Token) (tokens : List Token) :
    p.forget.read ⟨tags, load⟩ t tokens = forget <$> p.read load t tokens := by
  have htag : ∀ name rest markup, p.forget.readTag ⟨tags, load⟩ name rest markup =
      forget <$> p.readTag load name rest markup := p.forget_readTag
  obtain ⟨nodes, frames, verbatim⟩ := p
  cases verbatim with
  | some v =>
    -- a verbatim body ends or goes on whatever is around it
    have hbody : ∀ outer : List Frame, Progress.readVerbatim ⟨nodes, outer, some v⟩ t v =
        { Progress.readVerbatim ⟨nodes, [], some v⟩ t v with frames := outer } := by
      intro outer
      rw [Verbatim.readVerbatim_eq v t rfl, Verbatim.readVerbatim_eq v t rfl]
      cases v.ended? t <;> rfl
    exact congrArg Except.ok (hbody _)
  | none =>
    cases t with
    | literal text =>
      simp only [Progress.read, read, forget, body, orRecover_eq]
      split <;> rfl
    | output markup =>
      simp only [Progress.read, read, forget, body, orRecover_eq]
      cases Pipeline.parse markup <;> rfl
    | tag markup =>
      unfold read
      simp only
      cases hm : NamedTag.ofMarkup? markup with
      | none =>
        have hsplit : Markup.split? markup.toList = none := Option.map_eq_none_iff.1 hm
        simp only [Progress.read, forget, hsplit, recover_eq]
        rfl
      | some named =>
        rw [Progress.read_tag _ rfl hm]
        exact htag named.1 named.2 markup

theorem forget_finish : p.forget.finish = p.finish := by
  obtain ⟨nodes, frames, verbatim⟩ := p
  cases verbatim with
  | some v => cases v <;> exact (close_error frames _).symm
  | none =>
    cases frames with
    | nil => rfl
    | cons frame outer =>
      obtain ⟨block | block, before⟩ := frame
      · exact (close_error outer _).symm
      · exact (close_error outer _).symm

theorem forget_readAll (tokens : List Token) :
    Progress.readAll ⟨tags, load⟩ p.forget tokens = forget <$> p.readAll load tokens := by
  induction tokens generalizing p with
  | nil => rfl
  | cons t rest ih =>
    rw [Progress.readAll, readAll, forget_read]
    cases p.read load t rest with
    | error e => rfl
    | ok p' => exact ih p'

end HostProgress

/-- The parser reads registered tags as it would those of a host. -/
theorem Template.parseTokens_eq_host (tags : Keyed CustomTag)
    (load : String → Except Error (List Node)) (tokens : List Token) :
    Template.parseTokens ⟨tags, load⟩ tokens = (CustomTag.host tags).parseTokens load tokens := by
  have hread : Progress.readAll ⟨tags, load⟩ {} tokens =
      HostProgress.forget <$> HostProgress.readAll load {} tokens :=
    HostProgress.forget_readAll {} tokens
  rw [Template.parseTokens, HostTags.parseTokens, hread]
  cases HostProgress.readAll load ({} : HostProgress (CustomTag.host tags)) tokens with
  | error e => rfl
  | ok p => exact p.forget_finish

namespace Engine

variable (engine : Engine)

/-- The engine, with its tags as the tags of a host. -/
def host : HostEngine :=
  ⟨engine.fileSystem, CustomTag.host engine.tags, engine.maxIncludeDepth⟩

theorem compile_eq_host (depth : Nat) (source : String) :
    engine.compile depth source = engine.host.compile depth source := by
  induction depth generalizing source with
  | zero => exact Template.parseTokens_eq_host _ _ _
  | succ depth ih =>
    rw [compile, HostEngine.compile, Template.parseTokens_eq_host]
    simp only [ih]
    rfl

/-- An engine compiles as it would for a host with its tags. -/
theorem parse_eq_host (source : String) : engine.parse source = engine.host.parse source := by
  rw [parse, HostEngine.parse, compile_eq_host]
  rfl

theorem getTemplate_eq_host (name : String) :
    engine.getTemplate name = engine.host.getTemplate name := by
  rw [getTemplate, HostEngine.getTemplate]
  simp only [compile_eq_host]
  rfl

end Engine

end Liquid
