import Liquid.Proofs.Document.Block
import Liquid.Proofs.Template.Failure

/-!
# What a template asks for

Reading a template depends on other templates in one place only: where a token is read as an
`include` whose header is well-formed.

- `Progress.inclusion?`: the header of the `include` that a token is read as.
- `Progress.read_inclusion`: all that such a token does is to ask for the tree of a template and to
  add it as one node. No open block sees what is inside.
- `Progress.read_congr`, `Progress.read_failsWith`: no other token depends on what would be
  included, and what is wrong with it is wrong in its text.
- `Progress.requests`: the names that are asked for while tokens are read, up to the first error.
- `Template.parseTokens_congr`, `Template.parseTokens_cases`: from single tokens to all of them.
-/

namespace Liquid

open Error (InText)

namespace Block

/-- Only an `include` with a well-formed header depends on what is included. -/
theorem openBuiltin_congr (load load' : String → Except Error (List Node)) {tag : BuiltinTag}
    {markup : String}
    (h : tag = .inclusion → ∀ header, Inclusion.parse markup ≠ .ok header) :
    openBuiltin load tag markup = openBuiltin load' tag markup := by
  cases tag with
  | inclusion =>
    simp only [openBuiltin]
    cases hheader : Inclusion.parse markup with
    | error e => rfl
    | ok header => exact (h rfl header hheader).elim
  | assign | capture | comment | raw | cycle | loop | branch | negatedBranch | case | table => rfl

end Block

namespace Progress

/-! ### Single tokens -/

/-- The header of the `include` that a token is read as, if it is one. -/
def inclusion? (p : Progress) (t : Token) : Option Inclusion :=
  match p.verbatim, t with
  | none, .tag markup =>
    match NamedTag.ofMarkup? markup with
    | some (name, rest) =>
      if BuiltinTag.ofName? name = some .inclusion then (Inclusion.parse rest).toOption else none
    | none => none
  | _, _ => none

variable {p p' : Progress} {t : Token} {tokens : List Token} {d : Dialect}
  {tags : Keyed CustomTag} {load load' : String → Except Error (List Node)}

theorem inclusion?_eq_some_iff {header : Inclusion} :
    p.inclusion? t = some header ↔
      p.verbatim = none ∧ ∃ markup name rest, t = .tag markup
        ∧ NamedTag.ofMarkup? markup = some (name, rest)
        ∧ BuiltinTag.ofName? name = some .inclusion ∧ Inclusion.parse rest = .ok header := by
  unfold inclusion?
  constructor
  · intro h
    split at h
    · next markup hverbatim =>
      split at h
      · next name rest hm =>
        split at h
        · next hname => exact ⟨hverbatim, markup, name, rest, rfl, hm, hname,
            toOption_eq_some_iff.1 h⟩
        · cases h
      · cases h
    · cases h
  · rintro ⟨hverbatim, markup, name, rest, rfl, hm, hname, hheader⟩
    simp only [hverbatim, hm, hname, hheader, if_true, toOption_ok]

/-- A tag outside a verbatim body is read by its name. -/
theorem read_tag (d : Dialect) (hp : p.verbatim = none) {markup name rest : String}
    (hm : NamedTag.ofMarkup? markup = some (name, rest)) :
    p.read d (.tag markup) tokens = p.readTag d name rest markup := by
  obtain ⟨parts, hsplit, hparts⟩ := Option.map_eq_some_iff.1 hm
  cases hparts
  simp only [read, hp, hsplit]

/-- A built-in tag is no delimiter. -/
theorem readTag_builtin (d : Dialect) {name rest markup : String} {tag : BuiltinTag}
    (htag : BuiltinTag.ofName? name = some tag) :
    p.readTag d name rest markup = p.start <$> Block.openBuiltin d.load tag rest := by
  have hopen : p.openTag d name rest markup = p.start <$> Block.openBuiltin d.load tag rest := by
    simp only [openTag, htag]
  unfold readTag
  split
  · exact hopen
  · rw [Block.delimit?_builtin _ rest _ htag]
    exact hopen

/-- An `include` adds the tree of a template as one node, and does nothing else: whatever stands in
that template, the blocks that are open stay as they are. -/
theorem read_inclusion {header : Inclusion} (h : p.inclusion? t = some header) :
    p.read d t tokens =
      (fun body => p.add (.inclusion header body)) <$> d.load header.template := by
  obtain ⟨hp, markup, name, rest, rfl, hm, hname, hheader⟩ := inclusion?_eq_some_iff.1 h
  rw [read_tag d hp hm, readTag_builtin d hname, Block.openBuiltin, hheader, ok_bind]
  cases d.load header.template with
  | error e => rfl
  | ok body => rfl

theorem openTag_congr {name rest markup : String}
    (h : BuiltinTag.ofName? name = some .inclusion →
      ∀ header, Inclusion.parse rest ≠ .ok header) :
    p.openTag ⟨tags, load⟩ name rest markup = p.openTag ⟨tags, load'⟩ name rest markup := by
  unfold openTag
  split
  · next tag htag =>
    rw [Block.openBuiltin_congr load load' fun hinclusion => h (hinclusion ▸ htag)]
  · rfl

theorem readTag_congr {name rest markup : String}
    (h : BuiltinTag.ofName? name = some .inclusion →
      ∀ header, Inclusion.parse rest ≠ .ok header) :
    p.readTag ⟨tags, load⟩ name rest markup = p.readTag ⟨tags, load'⟩ name rest markup := by
  have hopen : p.openTag ⟨tags, load⟩ name rest markup = p.openTag ⟨tags, load'⟩ name rest markup :=
    openTag_congr h
  unfold readTag
  rw [hopen]

/-- The name of a tag that is read as no `include` is another one, or its header is malformed. -/
theorem not_inclusion (hp : p.verbatim = none) {markup name rest : String}
    (hm : NamedTag.ofMarkup? markup = some (name, rest)) (h : p.inclusion? (.tag markup) = none)
    (hname : BuiltinTag.ofName? name = some .inclusion) (header : Inclusion) :
    Inclusion.parse rest ≠ .ok header := by
  intro hheader
  have hsome := inclusion?_eq_some_iff.2 ⟨hp, markup, name, rest, rfl, hm, hname, hheader⟩
  rw [h] at hsome
  cases hsome

/-- No other token depends on what would be included. -/
theorem read_congr (h : p.inclusion? t = none) :
    p.read ⟨tags, load⟩ t tokens = p.read ⟨tags, load'⟩ t tokens := by
  cases hp : p.verbatim with
  | some v => simp only [read, hp]
  | none =>
    cases t with
    | literal text => rfl
    | output markup => rfl
    | tag markup =>
      cases hm : NamedTag.ofMarkup? markup with
      | none =>
        have hsplit : Markup.split? markup.toList = none := Option.map_eq_none_iff.1 hm
        simp only [read, hp, hsplit]
      | some named =>
        rw [read_tag _ hp hm, read_tag _ hp hm]
        exact readTag_congr (not_inclusion hp hm h)

/-! ### What is wrong with a token -/

theorem unknownTag_inText (p : Progress) (name markup : String) :
    InText (p.unknownTag name markup) := by
  unfold unknownTag
  split
  · split <;> trivial
  · trivial

theorem openTag_failsWith {name rest markup : String}
    (h : BuiltinTag.ofName? name = some .inclusion →
      ∀ header, Inclusion.parse rest ≠ .ok header) :
    FailsWith InText (p.openTag d name rest markup) := by
  unfold openTag
  split
  · next tag htag =>
    refine (Block.openBuiltin_failsWith (fun _ he => he) fun header hinclusion hheader => ?_).map _
    exact (h (hinclusion ▸ htag) header hheader).elim
  · split
    · exact (Block.openCustom_failsWith _ _ _).map _
    · exact failsWith_error (p.unknownTag_inText name markup)

/-- What is wrong with a token that is no `include` is wrong in its text. -/
theorem read_failsWith (h : p.inclusion? t = none) : FailsWith InText (p.read d t tokens) := by
  cases hp : p.verbatim with
  | some v =>
    simp only [read, hp]
    exact failsWith_ok _ _
  | none =>
    cases t with
    | literal text =>
      simp only [read, hp]
      split
      · exact failsWith_error trivial
      · exact failsWith_ok _ _
    | output markup =>
      simp only [read, hp]
      exact (Pipeline.parse_failsWith markup).bind fun pipeline => failsWith_ok _ _
    | tag markup =>
      cases hm : NamedTag.ofMarkup? markup with
      | none =>
        have hsplit : Markup.split? markup.toList = none := Option.map_eq_none_iff.1 hm
        simp only [read, hp, hsplit]
        exact failsWith_error trivial
      | some named =>
        rw [read_tag d hp hm]
        have hopen : FailsWith InText (p.openTag d named.1 named.2 markup) :=
          openTag_failsWith (not_inclusion hp hm h)
        unfold readTag
        split
        · exact hopen
        · split
          · exact hopen
          · next hdelimit =>
            refine (Block.delimit?_failsWith hdelimit).bind fun step => ?_
            cases step with
            | next block => exact failsWith_ok _ _
            | done node => exact failsWith_ok _ _

theorem finish_failsWith (p : Progress) : FailsWith InText p.finish := by
  unfold finish
  split
  · exact failsWith_error trivial
  · exact failsWith_error trivial
  · exact failsWith_error trivial
  · exact failsWith_ok _ _

/-! ### All tokens -/

/-- A token is read alike where the same trees are included. -/
theorem read_congr_of_load (h : ∀ header, p.inclusion? t = some header →
      load header.template = load' header.template) :
    p.read ⟨tags, load⟩ t tokens = p.read ⟨tags, load'⟩ t tokens := by
  cases hinclusion : p.inclusion? t with
  | none => exact read_congr hinclusion
  | some header =>
    rw [read_inclusion hinclusion, read_inclusion hinclusion]
    exact congrArg _ (h header hinclusion)

/-- The names that are asked for while tokens are read, up to the first error. -/
def requests (d : Dialect) (p : Progress) : List Token → List String
  | [] => []
  | t :: rest =>
    ((p.inclusion? t).map Inclusion.template).toList ++
      match p.read d t rest with
      | .ok p' => requests d p' rest
      | .error _ => []

theorem requests_cons_of_ok (h : p.read d t tokens = .ok p') :
    p.requests d (t :: tokens) =
      ((p.inclusion? t).map Inclusion.template).toList ++ p'.requests d tokens := by
  rw [requests, h]

theorem requests_cons_of_error {e : Error} (h : p.read d t tokens = .error e) :
    p.requests d (t :: tokens) = ((p.inclusion? t).map Inclusion.template).toList := by
  rw [requests, h, List.append_nil]

theorem mem_requests_of_inclusion {header : Inclusion} (h : p.inclusion? t = some header) :
    header.template ∈ p.requests d (t :: tokens) := by
  rw [requests, h]
  exact List.mem_cons_self

/-- The templates that are asked for are all that reading depends on. -/
theorem readAll_congr (h : ∀ name ∈ p.requests ⟨tags, load⟩ tokens, load name = load' name) :
    readAll ⟨tags, load⟩ p tokens = readAll ⟨tags, load'⟩ p tokens
      ∧ p.requests ⟨tags, load⟩ tokens = p.requests ⟨tags, load'⟩ tokens := by
  induction tokens generalizing p with
  | nil => exact ⟨rfl, rfl⟩
  | cons t rest ih =>
    have hread : p.read ⟨tags, load⟩ t rest = p.read ⟨tags, load'⟩ t rest :=
      read_congr_of_load fun header hheader => h _ (mem_requests_of_inclusion hheader)
    cases hp : p.read ⟨tags, load⟩ t rest with
    | error e =>
      rw [readAll, readAll, ← hread, hp, requests_cons_of_error hp,
        requests_cons_of_error (hread ▸ hp)]
      exact ⟨rfl, rfl⟩
    | ok p' =>
      rw [requests_cons_of_ok hp] at h ⊢
      rw [requests_cons_of_ok (hread ▸ hp), readAll, readAll, ← hread, hp, ok_bind, ok_bind]
      obtain ⟨hall, hrequests⟩ := ih fun name hname => h name (List.mem_append_right _ hname)
      exact ⟨hall, by rw [hrequests]⟩

/-- Either all templates that are asked for are there, and what can be wrong is wrong in the text;
or the last one that is asked for is not, and reading ends in its error. -/
theorem readAll_cases (d : Dialect) (p : Progress) (tokens : List Token) :
    ((∀ name ∈ p.requests d tokens, ∃ body, d.load name = .ok body)
        ∧ FailsWith InText (readAll d p tokens))
      ∨ ∃ before name e, p.requests d tokens = before ++ [name]
        ∧ (∀ other ∈ before, ∃ body, d.load other = .ok body)
        ∧ d.load name = .error e ∧ readAll d p tokens = .error e := by
  induction tokens generalizing p with
  | nil => exact .inl ⟨fun name hname => (List.not_mem_nil hname).elim, failsWith_ok _ _⟩
  | cons t rest ih =>
    -- the template that this token asks for is there if the token is read
    have hhere : ∀ p', p.read d t rest = .ok p' →
        ∀ name ∈ ((p.inclusion? t).map Inclusion.template).toList,
          ∃ body, d.load name = .ok body := by
      intro p' hp' name hname
      obtain ⟨header, hheader, rfl⟩ := Option.map_eq_some_iff.1 (Option.mem_toList.1 hname)
      rw [read_inclusion hheader] at hp'
      obtain ⟨body, hbody, -⟩ := map_eq_ok_iff.1 hp'
      exact ⟨body, hbody⟩
    cases hread : p.read d t rest with
    | ok p' =>
      rw [requests_cons_of_ok hread, readAll, hread, ok_bind]
      rcases ih p' with ⟨hloaded, hfails⟩ | ⟨before, name, e, hrequests, hbefore, hname, herror⟩
      · refine .inl ⟨fun name hname => ?_, hfails⟩
        rcases List.mem_append.1 hname with hname | hname
        · exact hhere p' hread name hname
        · exact hloaded name hname
      · refine .inr ⟨((p.inclusion? t).map Inclusion.template).toList ++ before, name, e, ?_,
          fun other hother => ?_, hname, herror⟩
        · rw [hrequests, List.append_assoc]
        · rcases List.mem_append.1 hother with hother | hother
          · exact hhere p' hread other hother
          · exact hbefore other hother
    | error e =>
      rw [requests_cons_of_error hread, readAll, hread, error_bind]
      cases hheader : p.inclusion? t with
      | none =>
        refine .inl ⟨fun name hname => (List.not_mem_nil hname).elim, failsWith_error ?_⟩
        exact read_failsWith hheader e hread
      | some header =>
        rw [read_inclusion hheader] at hread
        cases hload : d.load header.template with
        | ok body =>
          rw [hload] at hread
          cases hread
        | error e' =>
          rw [hload] at hread
          cases hread
          exact .inr ⟨[], header.template, e, rfl,
            fun other hother => (List.not_mem_nil hother).elim, hload, rfl⟩

end Progress

namespace Template

variable {tags : Keyed CustomTag} {load load' : String → Except Error (List Node)}

/-- The names that a list of tokens asks for, up to the first error. -/
def requests (d : Dialect) (tokens : List Token) : List String := Progress.requests d {} tokens

theorem parseTokens_congr {tokens : List Token}
    (h : ∀ name ∈ requests ⟨tags, load⟩ tokens, load name = load' name) :
    parseTokens ⟨tags, load⟩ tokens = parseTokens ⟨tags, load'⟩ tokens
      ∧ requests ⟨tags, load⟩ tokens = requests ⟨tags, load'⟩ tokens := by
  obtain ⟨hread, hrequests⟩ := Progress.readAll_congr h
  rw [parseTokens, parseTokens, hread]
  exact ⟨rfl, hrequests⟩

theorem parseTokens_cases (d : Dialect) (tokens : List Token) :
    ((∀ name ∈ requests d tokens, ∃ body, d.load name = .ok body)
        ∧ FailsWith InText (parseTokens d tokens))
      ∨ ∃ before name e, requests d tokens = before ++ [name]
        ∧ (∀ other ∈ before, ∃ body, d.load other = .ok body)
        ∧ d.load name = .error e ∧ parseTokens d tokens = .error e := by
  rcases Progress.readAll_cases d {} tokens with
    ⟨hloaded, hfails⟩ | ⟨before, name, e, hrequests, hbefore, hname, herror⟩
  · exact .inl ⟨hloaded, hfails.bind fun p => p.finish_failsWith⟩
  · refine .inr ⟨before, name, e, hrequests, hbefore, hname, ?_⟩
    rw [parseTokens, herror, error_bind]

end Template

end Liquid
