import Liquid.Proofs.Host.Parser
import Liquid.Proofs.Token.Canonical

/-!
# Reading one text behind another

What a host has read of a template is the nodes of the document and the blocks that are open.
Further nodes in front of the document change nothing in how it reads on, and where no block is open
in the end, what follows is read as if it stood alone.

- `HostTags.PassesOn`, `HostTags.EndsBlocks`: the parsers of a host make nothing of errors of a
  kind, and nothing of the end of the template in one of their bodies. Then a template compiles only
  if all its blocks end: `HostProgress.finish_eq_ok_iff`.
- `HostProgress.behind`: what has been read, with further nodes in front of the document.
- `HostProgress.readAll_behind`, `HostTags.parseTokens_append`: tokens are read behind other nodes,
  and behind other tokens, as they are by themselves.
- `HostEngine.included`, `HostEngine.compile_eq`: compiling a source is reading its tokens, whatever
  includes may still be opened.
-/

namespace Liquid

/-! ### Errors that stay errors -/

variable {P : Error → Prop}

/-- The parsers of the host end in an error of the kind `P` when a body of theirs does. -/
def HostTags.PassesOn (P : Error → Prop) (host : HostTags) : Prop :=
  ∀ state e, P e → ∃ e', P e' ∧ host.recover state e = .error e'

/-- The template must not end in a block of the host, nor in one inside it: that is an error of the
kind `P`, and stays one. -/
structure HostTags.EndsBlocks (P : Error → Prop) (host : HostTags) : Prop where
  /-- The block itself. -/
  atEnd : ∀ state, ∃ e, P e ∧ host.atEnd state = .error e
  /-- A built-in block inside it. -/
  builtin : ∀ tag, P (.unterminatedBlock tag)
  /-- Blocks around the one that the template ends in. -/
  passesOn : host.PassesOn P

namespace CustomTag

variable (tags : Keyed CustomTag)

theorem host_passesOn (P : Error → Prop) : (host tags).PassesOn P := fun _ e he => ⟨e, he, rfl⟩

theorem host_endsBlocks : (host tags).EndsBlocks fun _ => True where
  atEnd block := ⟨.unterminatedBlock block.tag, trivial, rfl⟩
  builtin _ := trivial
  passesOn := host_passesOn tags _

end CustomTag

namespace HostProgress

variable {host : HostTags}

theorem exists_recover_error (hhost : host.PassesOn P)
    (frames : List (host.OpenBlock × List Node)) {e : Error} (he : P e) :
    ∃ e', P e' ∧ recover frames e = .error e' := by
  induction frames generalizing e with
  | nil => exact ⟨e, he, rfl⟩
  | cons frame outer ih =>
    obtain ⟨block | state, before⟩ := frame
    · exact ih he
    · obtain ⟨e', he', hrecover⟩ := hhost state e he
      rw [recover, hrecover]
      exact ih he'

theorem exists_close_error (hhost : host.PassesOn P)
    (frames : List (host.OpenBlock × List Node)) {e : Error} (he : P e) :
    ∃ e', close frames (.error e) = .error e' := by
  induction frames generalizing e with
  | nil => exact ⟨e, rfl⟩
  | cons frame outer ih =>
    obtain ⟨block | state, before⟩ := frame
    · exact ih he
    · obtain ⟨e', he', hrecover⟩ := hhost state e he
      have hclose : host.close state (.error e) = .error e' := by
        rw [HostTags.close, hrecover, error_bind]
      rw [close, hclose]
      exact ih he'

/-- A template may end where no block is open, and nowhere else. -/
theorem finish_eq_ok_iff (hhost : host.EndsBlocks P) {p : HostProgress host} {nodes : List Node} :
    p.finish = .ok nodes ↔ p = ⟨nodes, [], none⟩ := by
  obtain ⟨before, frames, verbatim⟩ := p
  constructor
  · intro h
    rw [finish] at h
    -- what is wrong at the end of the innermost body is wrong at the end of the template
    have hclose : ∀ {frames : List (host.OpenBlock × List Node)} {e : Error}, P e →
        close frames (.error e) ≠ .ok nodes := by
      intro frames e he hok
      obtain ⟨e', he'⟩ := exists_close_error hhost.passesOn frames he
      rw [he'] at hok
      cases hok
    cases verbatim with
    | some v => cases v <;> exact (hclose (hhost.builtin _) h).elim
    | none =>
      cases frames with
      | nil =>
        cases h
        rfl
      | cons frame outer =>
        obtain ⟨block | state, around⟩ := frame
        · exact (hclose (hhost.builtin block.tag) h).elim
        · obtain ⟨e, he, hatEnd⟩ := hhost.atEnd state
          have hend : close ((.inr state, around) :: outer) (.ok before) =
              close outer (.error e) := by
            rw [close, HostTags.close, hatEnd]
            rfl
          exact (hclose he (hend.symm.trans h)).elim
  · intro h
    cases h
    rfl

/-! ### Single tokens -/

section

variable {load : String → Except Error (List Node)} {nodes : List Node}
  {frames : List (host.OpenBlock × List Node)} {t : Token}

/-- A text is a node of the body that is being read. -/
theorem read_literal {text : String} (htext : ¬ (Token.literal text).IsBareOpener)
    (tokens : List Token) :
    read load ⟨nodes, frames, none⟩ (.literal text) tokens =
      .ok ⟨nodes ++ [.text text], frames, none⟩ := by
  have hplain : ¬ (text.toList = Token.outputOpener ∨ text.toList = Token.tagOpener) :=
    fun h => htext (Token.isBareOpener_literal_iff.2 h)
  simp only [read, body, Progress.read, if_neg hplain]
  rfl

/-- A verbatim body ends at a token, or it goes on behind it. -/
theorem read_verbatim (v : Verbatim) (t : Token) (tokens : List Token) :
    read load ⟨nodes, frames, some v⟩ t tokens =
      .ok (match v.ended? t with
        | some node => ⟨nodes ++ [node], frames, none⟩
        | none => ⟨nodes, frames, some (v.next t)⟩) := by
  have hread : read load ⟨nodes, frames, some v⟩ t tokens =
      .ok (withBody ⟨nodes, frames, some v⟩ (Progress.readVerbatim ⟨nodes, [], some v⟩ t v)) := rfl
  rw [hread, Verbatim.readVerbatim_eq v t rfl]
  cases v.ended? t <;> rfl

/-- Only a bare opening pair looks at what stands behind it. -/
theorem read_congr_rest {p : HostProgress host} (ht : ¬ t.IsBareOpener) (rest rest' : List Token) :
    p.read load t rest = p.read load t rest' := by
  obtain ⟨nodes, frames, verbatim⟩ := p
  cases t with
  | tag markup => cases verbatim <;> rfl
  | output markup => cases verbatim <;> rfl
  | literal text =>
    cases verbatim with
    | some v => rw [read_verbatim, read_verbatim]
    | none => rw [read_literal ht, read_literal ht]

end

/-! ### Further nodes in front -/

section

variable (front : List Node)

/-- The nodes of a body inside the blocks `frames`, when `front` stands in front of the document: it
does so in front of the body that no block is around. -/
def bodyBehind (frames : List (host.OpenBlock × List Node)) (nodes : List Node) : List Node :=
  if frames.isEmpty then front ++ nodes else nodes

/-- Open blocks, when `front` stands in front of the document. -/
def framesBehind : List (host.OpenBlock × List Node) → List (host.OpenBlock × List Node)
  | [] => []
  | (block, before) :: outer => (block, bodyBehind front outer before) :: framesBehind outer

/-- The same with `front` in front of the document. -/
def behind (p : HostProgress host) : HostProgress host :=
  ⟨bodyBehind front p.frames p.nodes, framesBehind front p.frames, p.verbatim⟩

theorem bodyBehind_append (frames : List (host.OpenBlock × List Node)) (nodes more : List Node) :
    bodyBehind front frames (nodes ++ more) = bodyBehind front frames nodes ++ more := by
  cases frames with
  | nil => exact (List.append_assoc front nodes more).symm
  | cons frame outer => rfl

variable {load : String → Except Error (List Node)} (p : HostProgress host)

theorem startBuiltin_behind (start : Block.Start) :
    (p.behind front).startBuiltin start = (p.startBuiltin start).behind front := by
  obtain ⟨nodes, frames, verbatim⟩ := p
  cases start with
  | node node =>
    show HostProgress.mk (bodyBehind front frames nodes ++ [node]) _ _ = _
    rw [← bodyBehind_append]
    rfl
  | block block => rfl
  | raw => rfl
  | comment => rfl

theorem start_behind (outcome : Outcome host.State) :
    (p.behind front).start outcome = (p.start outcome).behind front := by
  obtain ⟨nodes, frames, verbatim⟩ := p
  cases outcome with
  | node node =>
    show HostProgress.mk (bodyBehind front frames nodes ++ [node]) _ _ = _
    rw [← bodyBehind_append]
    rfl
  | block state => rfl

theorem afterDelimiter_behind (before : List Node) (outer : List (host.OpenBlock × List Node))
    (outcome : Outcome host.OpenBlock) :
    (p.behind front).afterDelimiter (bodyBehind front outer before) (framesBehind front outer)
        outcome =
      (p.afterDelimiter before outer outcome).behind front := by
  obtain ⟨nodes, frames, verbatim⟩ := p
  cases outcome with
  | node node =>
    show HostProgress.mk (bodyBehind front outer before ++ [node]) _ _ = _
    rw [← bodyBehind_append]
    rfl
  | block block => rfl

theorem recover_behind (frames : List (host.OpenBlock × List Node)) (e : Error) :
    recover (framesBehind front frames) e = behind front <$> recover frames e := by
  induction frames generalizing e with
  | nil => rfl
  | cons frame outer ih =>
    obtain ⟨block | state, before⟩ := frame
    · exact ih e
    · rw [framesBehind, recover, recover]
      cases host.recover state e with
      | error e' => exact ih e'
      | ok outcome =>
        exact congrArg Except.ok (afterDelimiter_behind front {} before outer (outcome.map Sum.inr))

theorem orRecover_behind (frames : List (host.OpenBlock × List Node))
    (x : Except Error (HostProgress host)) :
    orRecover (framesBehind front frames) (behind front <$> x) =
      behind front <$> orRecover frames x := by
  cases x with
  | ok p => rfl
  | error e => exact recover_behind front frames e

theorem unknownTag_behind (name markup : String) :
    (p.behind front).unknownTag name markup = p.unknownTag name markup := by
  obtain ⟨nodes, frames, verbatim⟩ := p
  cases frames with
  | nil => rfl
  | cons frame outer => rfl

theorem openTag_behind (name rest markup : String) :
    (p.behind front).openTag load name rest markup =
      behind front <$> p.openTag load name rest markup := by
  unfold openTag
  cases BuiltinTag.ofName? name with
  | some tag =>
    simp only
    cases Block.openBuiltin load tag rest with
    | error e => rfl
    | ok start => exact congrArg Except.ok (startBuiltin_behind front p start)
  | none =>
    simp only
    cases host.start? name rest with
    | none => exact congrArg Except.error (unknownTag_behind front p name markup)
    | some outcome =>
      cases outcome with
      | error e => rfl
      | ok outcome => exact congrArg Except.ok (start_behind front p outcome)

/-- Nodes in front of the document are in front of the innermost body only if no block is open, and
then no tag is a delimiter. -/
theorem readTag_behind (name rest markup : String) :
    (p.behind front).readTag load name rest markup =
      behind front <$> p.readTag load name rest markup := by
  have hopen : (p.behind front).openTag load name rest markup =
      behind front <$> p.openTag load name rest markup := openTag_behind front p name rest markup
  obtain ⟨nodes, frames, verbatim⟩ := p
  cases frames with
  | nil => exact hopen
  | cons frame outer =>
    obtain ⟨block, before⟩ := frame
    cases hdelimit : host.delimitBlock? block name rest nodes with
    | none =>
      have hbehind : host.delimitBlock? block name rest
          (bodyBehind front ((block, before) :: outer) nodes) = none := hdelimit
      simp only [readTag, behind, framesBehind, hdelimit, hbehind]
      exact (congrArg (orRecover _) hopen).trans
        (orRecover_behind front ((block, before) :: outer) _)
    | some outcome =>
      have hbehind : host.delimitBlock? block name rest
          (bodyBehind front ((block, before) :: outer) nodes) = some outcome := hdelimit
      simp only [readTag, behind, framesBehind, hdelimit, hbehind]
      rw [← orRecover_behind]
      cases outcome with
      | error e => rfl
      | ok outcome =>
        exact congrArg (fun p => orRecover (framesBehind front outer) (.ok p))
          (afterDelimiter_behind front ⟨nodes, (block, before) :: outer, verbatim⟩ before outer
            outcome)

theorem read_behind (t : Token) (tokens : List Token) :
    (p.behind front).read load t tokens = behind front <$> p.read load t tokens := by
  have htag : ∀ name rest markup, (p.behind front).readTag load name rest markup =
      behind front <$> p.readTag load name rest markup := readTag_behind front p
  obtain ⟨nodes, frames, verbatim⟩ := p
  -- what is no tag is a node behind the others at most
  have hadd : ∀ node, HostProgress.mk (bodyBehind front frames nodes ++ [node])
      (framesBehind front frames) none = behind front ⟨nodes ++ [node], frames, none⟩ := by
    intro node
    rw [← bodyBehind_append]
    rfl
  cases verbatim with
  | some v =>
    rw [behind, read_verbatim, read_verbatim]
    cases v.ended? t with
    | none => rfl
    | some node => exact congrArg Except.ok (hadd node)
  | none =>
    cases t with
    | literal text =>
      simp only [read, Progress.read, body, behind]
      split
      · exact recover_behind front frames _
      · exact congrArg Except.ok (hadd (.text text))
    | output markup =>
      simp only [read, Progress.read, body, behind]
      cases Pipeline.parse markup with
      | error e => exact recover_behind front frames e
      | ok pipeline => exact congrArg Except.ok (hadd (.output pipeline))
    | tag markup =>
      unfold read
      simp only [behind]
      cases NamedTag.ofMarkup? markup with
      | none => exact recover_behind front frames _
      | some named => exact htag named.1 named.2 markup

/-- Reading goes on alike behind other nodes. -/
theorem readAll_behind (tokens : List Token) :
    (p.behind front).readAll load tokens = behind front <$> p.readAll load tokens := by
  induction tokens generalizing p with
  | nil => rfl
  | cons t rest ih =>
    rw [readAll, readAll, read_behind]
    cases p.read load t rest with
    | error e => rfl
    | ok p' => exact ih p'

/-- At the end, too, further nodes in front are in front of the tree. -/
theorem close_behind (frames : List (host.OpenBlock × List Node))
    (body : Except Error (List Node)) :
    close (framesBehind front frames) (bodyBehind front frames <$> body) =
      (front ++ ·) <$> close frames body := by
  induction frames generalizing body with
  | nil => rfl
  | cons frame outer ih =>
    obtain ⟨block | state, before⟩ := frame
    · cases body with
      | error e => exact ih (.error e)
      | ok nodes => exact ih (.error (.unterminatedBlock block.tag))
    · have hbody : bodyBehind front ((.inr state, before) :: outer) <$> body = body := by
        cases body <;> rfl
      rw [framesBehind, close, close, hbody, ← ih]
      cases host.close state body with
      | error e => rfl
      | ok node =>
        exact congrArg (close _ <| .ok ·) (bodyBehind_append front outer before [node]).symm

theorem finish_behind : (p.behind front).finish = (front ++ ·) <$> p.finish := by
  obtain ⟨nodes, frames, verbatim⟩ := p
  rw [finish, finish, ← close_behind]
  cases verbatim with
  | none => rfl
  | some v => cases v <;> rfl

end

/-! ### Tokens behind tokens -/

section

variable {load : String → Except Error (List Node)} {p : HostProgress host} {t : Token}
  {tokens more : List Token}

/-- Tokens are read one list after the other. -/
theorem readAll_append (hopen : ∀ t ∈ tokens, ¬ t.IsBareOpener) :
    p.readAll load (tokens ++ more) = p.readAll load tokens >>= fun p => p.readAll load more := by
  induction tokens generalizing p with
  | nil => rfl
  | cons t rest ih =>
    have hread : p.read load t (rest ++ more) = p.read load t rest :=
      read_congr_rest (hopen t List.mem_cons_self) _ _
    rw [List.cons_append, readAll, readAll, hread, bind_assoc]
    exact bind_congr fun p' => ih fun t' ht' => hopen t' (List.mem_cons_of_mem t ht')

end

end HostProgress

namespace HostTags

variable {host : HostTags} {load : String → Except Error (List Node)} {tokens more : List Token}
  {nodes : List Node}

/-- Behind nodes that have been read, tokens add their tree. -/
theorem finish_readAll_behind (front : List Node) (tokens : List Token) :
    (HostProgress.readAll load (⟨front, [], none⟩ : HostProgress host) tokens >>=
        HostProgress.finish) =
      (front ++ ·) <$> host.parseTokens load tokens := by
  have hfront : HostProgress.mk front [] none =
      HostProgress.behind front ({} : HostProgress host) :=
    congrArg (HostProgress.mk · [] none) (List.append_nil front).symm
  rw [hfront, HostProgress.readAll_behind, parseTokens]
  cases HostProgress.readAll load ({} : HostProgress host) tokens with
  | error e => rfl
  | ok p => exact p.finish_behind front

/-- Behind tokens that are a template by themselves, others compile as they do by themselves. -/
theorem parseTokens_append (hhost : host.EndsBlocks P) (hopen : ∀ t ∈ tokens, ¬ t.IsBareOpener)
    (h : host.parseTokens load tokens = .ok nodes) :
    host.parseTokens load (tokens ++ more) = (nodes ++ ·) <$> host.parseTokens load more := by
  obtain ⟨p, hp, hfinish⟩ := bind_eq_ok_iff.1 h
  cases (HostProgress.finish_eq_ok_iff hhost).1 hfinish
  rw [← finish_readAll_behind, parseTokens, HostProgress.readAll_append hopen, hp]
  rfl

/-- A text in front is one node in front. -/
theorem parseTokens_literal {text : String} (htext : ¬ (Token.literal text).IsBareOpener) :
    host.parseTokens load (.literal text :: tokens) =
      (.text text :: ·) <$> host.parseTokens load tokens := by
  rw [parseTokens, HostProgress.readAll, HostProgress.read_literal htext, ok_bind,
    List.nil_append, finish_readAll_behind]
  rfl

/-- A text at the end is one node at the end. -/
theorem exists_of_parseTokens_literal (hhost : host.EndsBlocks P)
    (hopen : ∀ t ∈ tokens, ¬ t.IsBareOpener) {text : String}
    (htext : ¬ (Token.literal text).IsBareOpener)
    (h : host.parseTokens load (tokens ++ [.literal text]) = .ok nodes) :
    ∃ front, host.parseTokens load tokens = .ok front ∧ nodes = front ++ [.text text] := by
  rw [parseTokens, HostProgress.readAll_append hopen, bind_assoc] at h
  obtain ⟨p, hp, hlast⟩ := bind_eq_ok_iff.1 h
  obtain ⟨q, hq, hfinish⟩ := bind_eq_ok_iff.1 hlast
  cases (HostProgress.finish_eq_ok_iff hhost).1 hfinish
  rw [HostProgress.readAll, bind_eq_ok_iff] at hq
  obtain ⟨q, hread, hq⟩ := hq
  cases hq
  obtain ⟨front, frames, verbatim⟩ := p
  -- the text neither opens nor ends anything, so nothing is open in front of it
  cases verbatim with
  | some v =>
    have hend : v.ended? (.literal text) = none := by
      cases hended : v.ended? (.literal text) with
      | none => rfl
      | some node =>
        obtain ⟨markup, named, ht, -⟩ := Verbatim.exists_tag_of_ended? hended
        cases ht
    rw [HostProgress.read_verbatim, hend] at hread
    cases hread
  | none =>
    rw [HostProgress.read_literal htext] at hread
    cases hread
    refine ⟨front, ?_, rfl⟩
    rw [parseTokens, hp]
    rfl

end HostTags

namespace HostEngine

variable (engine : HostEngine)

/-- The tree of an included template, when includes may be nested `depth` deep. -/
def included : (depth : Nat) → (name : String) → Except Error (List Node)
  | 0, name => .error (.includeDepthExceeded name engine.maxIncludeDepth)
  | depth + 1, name => engine.fileSystem.read name >>= engine.compile depth

theorem compile_eq (depth : Nat) (source : String) :
    engine.compile depth source =
      engine.tags.parseTokens (engine.included depth) (tokenize source) := by
  cases depth <;> rfl

variable {engine} in
theorem parse_of_tokens {source : String} {tokens : List Token} {nodes : List Node}
    (htokens : tokenize source = tokens)
    (h : engine.tags.parseTokens (engine.included engine.maxIncludeDepth) tokens = .ok nodes) :
    engine.parse source = .ok ⟨none, nodes⟩ := by
  rw [parse, compile_eq, htokens, h]
  rfl

/-- What a source renders as is what its nodes do. -/
theorem render_parse (source : String) :
    Template.render <$> engine.parse source =
      renderAll <$> engine.tags.parseTokens (engine.included engine.maxIncludeDepth)
        (tokenize source) := by
  rw [parse, compile_eq]
  cases engine.tags.parseTokens (engine.included engine.maxIncludeDepth) (tokenize source) <;> rfl

end HostEngine

end Liquid
