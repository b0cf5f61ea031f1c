import Liquid.Proofs.Document.Derivation
import Liquid.Proofs.FileSystem
import Liquid.Proofs.Template.Inclusions
import Liquid.Proofs.Template.Nodes

/-!
# How deep includes are nested

The number of includes that may still be opened goes down by one with each template that is opened,
and so compiling ends, also where templates include themselves.

- `Node.Chain`: includes of a tree, each inside the one in front of it.
- `Engine.GoesOn`: where reading goes on, in a template and in those that it includes.
- `Engine.Reaches`: reading in order comes to an `include` that is one too deep, and to no error in
  front of it.
- `Engine.reached`: all includes that are come to, each with the depth that is left there. A
  template is read where that is not zero.
- `Engine.reportsLimit_compile`: the limit is reported just for the last of them, where that one may
  not be opened.
- `Engine.compile_exceeded_iff`: compiling reports the limit just where it is reached.
- `Engine.compile_of_le`: a greater depth only matters where the limit was reached.
-/

namespace Liquid

open Error (InText)

/-- A chain of includes in a tree: each is inside the one in front of it. -/
inductive Node.Chain : Node → List Inclusion → Prop where
  /-- An `include`. -/
  | last (header : Inclusion) (body : List Node) : Chain (.inclusion header body) [header]
  /-- A chain in the tree that an `include` holds. -/
  | link {header : Inclusion} {body : List Node} {child : Node} {chain : List Inclusion}
    (hchild : child ∈ body) (h : Chain child chain) :
    Chain (.inclusion header body) (header :: chain)
  /-- A chain in a body of any node. -/
  | inside {node child : Node} {chain : List Inclusion} (hchild : child ∈ node.children)
    (h : Chain child chain) : Chain node chain

namespace Engine

variable (engine : Engine)

/-- What compiling depends on, when includes may be nested `depth` deep. -/
def dialect (depth : Nat) : Dialect := ⟨engine.tags, engine.included depth⟩

/-- Reading tokens from `p` on, one after the other, comes to an `include` of the template `name`
when all includes of `chain` have been opened, each inside the one in front of it, and as many as
these may be open at all. In front of it there is no error. -/
inductive Reaches : (chain : List String) → Progress → List Token → (name : String) → Prop where
  /-- The token is that `include`. -/
  | here {p t tokens header} (h : p.inclusion? t = some header) :
    Reaches [] p (t :: tokens) header.template
  /-- The token is the first `include` of the chain. -/
  | inside {chain p t tokens header source name} (h : p.inclusion? t = some header)
    (hread : engine.fileSystem.read header.template = .ok source)
    (hinside : Reaches chain {} (tokenize source) name) :
    Reaches (header.template :: chain) p (t :: tokens) name
  /-- The token is read, with all that it includes. -/
  | behind {chain p p' t tokens name}
    (hread : p.read (engine.dialect chain.length) t tokens = .ok p')
    (hbehind : Reaches chain p' tokens name) : Reaches chain p (t :: tokens) name

/-- An `include` that may be opened, and those that are come to inside, if there is a template. -/
def opened (engine : Engine) (inside : String → List (String × Nat)) (depth : Nat) (name : String) :
    List (String × Nat) :=
  (name, depth) :: (engine.fileSystem.read name).toOption.toList.flatMap inside

/-- The includes that compiling a source comes to, in order, each with the number of includes that
may be opened there. -/
def reached (engine : Engine) : (depth : Nat) → (source : String) → List (String × Nat)
  | 0, source =>
    (Template.requests (engine.dialect 0) (tokenize source)).map fun name => (name, 0)
  | depth + 1, source =>
    (Template.requests (engine.dialect (depth + 1)) (tokenize source)).flatMap
      (engine.opened (engine.reached depth) (depth + 1))

/-- The templates that compiling a source reads from the file system, in order. -/
def reads (depth : Nat) (source : String) : List String :=
  ((engine.reached depth source).filter fun r => r.2 != 0).map Prod.fst

/-- Reading stands at some tokens, with a number of includes that may be opened. From `outer` it
goes on at `inner`: behind a token that has been read, or at the first token of a template that is
included. -/
inductive GoesOn : (inner outer : Nat × Progress × List Token) → Prop where
  /-- Behind a token. -/
  | behind {depth p p' t tokens} (h : p.read (engine.dialect depth) t tokens = .ok p') :
    GoesOn (depth, p', tokens) (depth, p, t :: tokens)
  /-- At the first token of a template. -/
  | inside {depth p t tokens header source} (h : p.inclusion? t = some header)
    (hread : engine.fileSystem.read header.template = .ok source) :
    GoesOn (depth, {}, tokenize source) (depth + 1, p, t :: tokens)

/-- Reading does not go on without end. A template that is included may be longer than what is left
of the one that includes it, but fewer includes may be opened in it. -/
theorem wellFounded_goesOn : WellFounded engine.GoesOn := by
  refine Subrelation.wf ?_
    (InvImage.wf (fun s : Nat × Progress × List Token => (s.1, s.2.2.length))
      (Prod.lex Nat.lt_wfRel Nat.lt_wfRel).wf)
  intro inner outer h
  cases h with
  | behind h => exact Prod.Lex.right _ (Nat.lt_succ_self _)
  | inside h hread => exact Prod.Lex.left _ _ (Nat.lt_succ_self _)

variable {engine}

theorem included_zero (name : String) :
    engine.included 0 name = .error (.includeDepthExceeded name engine.maxIncludeDepth) := rfl

theorem included_succ_eq_ok_iff {depth : Nat} {name : String} {body : List Node} :
    engine.included (depth + 1) name = .ok body ↔
      ∃ source, engine.fileSystem.read name = .ok source
        ∧ engine.compile depth source = .ok body := bind_eq_ok_iff

/-! ### The tree -/

/-- No chain of includes is longer than the depth. -/
theorem length_chain_le_of_compile {depth : Nat} {source : String} {nodes : List Node}
    (h : engine.compile depth source = .ok nodes) :
    ∀ node ∈ nodes, ∀ chain, node.Chain chain → chain.length ≤ depth := by
  induction depth generalizing source nodes with
  | zero =>
    refine Template.forall_of_parseTokens (d := engine.dialect 0) (fun node hmakes hinside => ?_)
      (fun name body hbody => by cases hbody) h
    intro chain hchain
    cases hchain with
    | last => cases hmakes
    | link => cases hmakes
    | inside hchild hchain => exact hinside _ hchild _ hchain
  | succ depth ih =>
    have hload : ∀ name body, engine.included (depth + 1) name = .ok body →
        ∀ node ∈ body, ∀ chain, node.Chain chain → chain.length ≤ depth := by
      intro name body hbody
      obtain ⟨text, -, hcompile⟩ := included_succ_eq_ok_iff.1 hbody
      exact ih hcompile
    refine Template.forall_of_parseTokens (d := engine.dialect (depth + 1))
      (fun node hmakes hinside => ?_)
      (fun name body hbody node hnode chain hchain =>
        Nat.le_succ_of_le (hload name body hbody node hnode chain hchain)) h
    intro chain hchain
    cases hchain with
    | last => exact Nat.succ_le_succ (Nat.zero_le depth)
    | link hchild hchain => exact Nat.succ_le_succ (hload _ _ hmakes _ hchild _ hchain)
    | inside hchild hchain => exact hinside _ hchild _ hchain

/-! ### Where the limit is reached -/

/-- The limit is reached while the tokens are read, and not at their end. -/
theorem compile_exceeded_iff_readAll {depth : Nat} {source name : String} {limit : Nat} :
    engine.compile depth source = .error (.includeDepthExceeded name limit) ↔
      Progress.readAll (engine.dialect depth) {} (tokenize source) =
        .error (.includeDepthExceeded name limit) := by
  have hcompile : engine.compile depth source =
      Progress.readAll (engine.dialect depth) {} (tokenize source) >>= Progress.finish :=
    compile_eq engine depth source
  rw [hcompile]
  cases Progress.readAll (engine.dialect depth) {} (tokenize source) with
  | error e => constructor <;> (intro h; cases h; rfl)
  | ok p =>
    constructor
    · intro h
      exact (p.finish_failsWith _ h).elim
    · intro h
      cases h

/-- What reaches the limit ends in an error that says so. -/
theorem Reaches.readAll {chain : List String} {p : Progress} {tokens : List Token} {name : String}
    (h : engine.Reaches chain p tokens name) :
    Progress.readAll (engine.dialect chain.length) p tokens =
      .error (.includeDepthExceeded name engine.maxIncludeDepth) := by
  induction h with
  | here h =>
    rw [Progress.readAll, Progress.read_inclusion h]
    rfl
  | inside h hread hinside ih =>
    have hload : ∀ n, engine.included (n + 1) _ = _ :=
      fun n => congrArg (· >>= engine.compile n) hread
    rw [Progress.readAll, Progress.read_inclusion h, List.length_cons, dialect]
    simp only [hload, ok_bind, compile_exceeded_iff_readAll.2 ih, error_map, error_bind]
  | behind hread hbehind ih => rw [Progress.readAll, hread, ok_bind, ih]

/-- If an included template reaches the limit, so does the one that includes it. -/
theorem exists_reaches_of_included {depth : Nat} {name : String} {limit : Nat}
    (hload : ∀ {p t tokens header}, p.inclusion? t = some header →
      engine.included depth header.template = .error (.includeDepthExceeded name limit) →
      ∃ chain : List String, chain.length = depth ∧ engine.Reaches chain p (t :: tokens) name)
    {p : Progress} {tokens : List Token}
    (h : Progress.readAll (engine.dialect depth) p tokens =
      .error (.includeDepthExceeded name limit)) :
    ∃ chain : List String, chain.length = depth ∧ engine.Reaches chain p tokens name := by
  induction tokens generalizing p with
  | nil => cases h
  | cons t rest ih =>
    rw [Progress.readAll] at h
    cases hread : p.read (engine.dialect depth) t rest with
    | ok p' =>
      rw [hread, ok_bind] at h
      obtain ⟨chain, rfl, hreaches⟩ := ih h
      exact ⟨chain, rfl, .behind hread hreaches⟩
    | error e =>
      rw [hread, error_bind] at h
      cases h
      cases hheader : p.inclusion? t with
      | none => exact (Progress.read_failsWith hheader _ hread).elim
      | some header =>
        rw [Progress.read_inclusion hheader] at hread
        cases hincluded : (engine.dialect depth).load header.template with
        | ok body =>
          rw [hincluded] at hread
          cases hread
        | error e =>
          rw [hincluded] at hread
          cases hread
          exact hload hheader hincluded

/-- An error that reports the limit comes of reaching it. The induction is on the depth that is
left. -/
theorem exists_reaches_of_readAll {depth : Nat} {p : Progress} {tokens : List Token} {name : String}
    {limit : Nat}
    (h : Progress.readAll (engine.dialect depth) p tokens =
      .error (.includeDepthExceeded name limit)) :
    ∃ chain : List String, chain.length = depth ∧ engine.Reaches chain p tokens name := by
  induction depth generalizing p tokens with
  | zero =>
    refine exists_reaches_of_included (fun hheader hload => ?_) h
    cases hload
    exact ⟨[], rfl, .here hheader⟩
  | succ depth ih =>
    refine exists_reaches_of_included (fun {p t tokens header} hheader hload => ?_) h
    rw [included] at hload
    cases hread : engine.fileSystem.read header.template with
    | error e =>
      rw [hread] at hload
      cases hload
      exact (FileSystem.read_failsWith _ _ _ hread).elim
    | ok text =>
      rw [hread, ok_bind, compile_exceeded_iff_readAll] at hload
      obtain ⟨chain, rfl, hreaches⟩ := ih hload
      exact ⟨header.template :: chain, rfl, .inside hheader hread hreaches⟩

/-- Compiling reports the limit just where it is reached. -/
theorem compile_exceeded_iff {depth : Nat} {source name : String} {limit : Nat} :
    engine.compile depth source = .error (.includeDepthExceeded name limit) ↔
      limit = engine.maxIncludeDepth
        ∧ ∃ chain : List String, chain.length = depth
          ∧ engine.Reaches chain {} (tokenize source) name := by
  rw [compile_exceeded_iff_readAll]
  constructor
  · intro h
    obtain ⟨chain, rfl, hreaches⟩ := exists_reaches_of_readAll h
    rw [hreaches.readAll] at h
    cases h
    exact ⟨rfl, chain, rfl, hreaches⟩
  · rintro ⟨rfl, chain, rfl, hreaches⟩
    exact hreaches.readAll

/-! ### What is read -/

theorem requests_cases (depth : Nat) (source : String) :
    ((∀ name ∈ Template.requests (engine.dialect depth) (tokenize source),
          ∃ body, engine.included depth name = .ok body)
        ∧ FailsWith InText (engine.compile depth source))
      ∨ ∃ before name e,
        Template.requests (engine.dialect depth) (tokenize source) = before ++ [name]
        ∧ (∀ other ∈ before, ∃ body, engine.included depth other = .ok body)
        ∧ engine.included depth name = .error e ∧ engine.compile depth source = .error e := by
  rw [compile_eq]
  exact Template.parseTokens_cases (engine.dialect depth) (tokenize source)

/-- Either every `include` that is come to may be opened, and the outcome does not report the limit;
or the last one may not, and the outcome reports the limit for it. -/
def ReportsLimit (engine : Engine) (reached : List (String × Nat))
    (outcome : Except Error (List Node)) : Prop :=
  ((∀ r ∈ reached, r.2 ≠ 0) ∧ ∀ name limit, outcome ≠ .error (.includeDepthExceeded name limit))
    ∨ ∃ before name, reached = before ++ [(name, 0)]
      ∧ (∀ r ∈ before, r.2 ≠ 0)
      ∧ outcome = .error (.includeDepthExceeded name engine.maxIncludeDepth)

namespace ReportsLimit

variable {engine : Engine} {front reached : List (String × Nat)} {body : List Node}
  {outcome : Except Error (List Node)}

/-- Includes in front that may be opened make no difference. -/
theorem append (hfront : ∀ r ∈ front, r.2 ≠ 0) (h : engine.ReportsLimit reached outcome) :
    engine.ReportsLimit (front ++ reached) outcome := by
  rcases h with ⟨hopen, hne⟩ | ⟨before, name, rfl, hbefore, herror⟩
  · exact .inl ⟨List.forall_mem_append.2 ⟨hfront, hopen⟩, hne⟩
  · refine .inr ⟨front ++ before, name, ?_, ?_, herror⟩
    · rw [List.append_assoc]
    · exact List.forall_mem_append.2 ⟨hfront, hbefore⟩

theorem ne_zero_of_ok (h : engine.ReportsLimit reached (.ok body)) : ∀ r ∈ reached, r.2 ≠ 0 := by
  rcases h with ⟨hopen, -⟩ | ⟨_, _, -, -, herror⟩
  · exact hopen
  · cases herror

end ReportsLimit

/-- What an `include` that may be opened comes to reports the limit as its source does. -/
theorem reportsLimit_included {depth : Nat}
    (h : ∀ source, engine.ReportsLimit (engine.reached depth source) (engine.compile depth source))
    (name : String) :
    engine.ReportsLimit (engine.opened (engine.reached depth) (depth + 1) name)
      (engine.included (depth + 1) name) := by
  have hhere : ∀ r ∈ [(name, depth + 1)], r.2 ≠ 0 :=
    List.forall_mem_singleton.2 (Nat.succ_ne_zero depth)
  rw [opened, included]
  cases hread : engine.fileSystem.read name with
  | error e =>
    rw [toOption_error, Option.toList_none, List.flatMap_nil]
    refine .inl ⟨hhere, fun name limit h => ?_⟩
    cases h
    exact FileSystem.read_failsWith _ _ _ hread
  | ok text =>
    rw [ok_bind, toOption_ok, Option.toList_some, List.flatMap_singleton]
    exact (h text).append hhere

/-- Compiling reports the limit just for the last `include` that is come to, where that one may not
be opened. -/
theorem reportsLimit_compile (depth : Nat) (source : String) :
    engine.ReportsLimit (engine.reached depth source) (engine.compile depth source) := by
  induction depth generalizing source with
  | zero =>
    have hnone : ∀ {names : List String},
        (∀ name ∈ names, ∃ body, engine.included 0 name = .ok body) → names = [] := by
      intro names hnames
      rw [List.eq_nil_iff_forall_not_mem]
      intro name hname
      obtain ⟨body, hbody⟩ := hnames name hname
      cases hbody
    rw [reached]
    rcases requests_cases 0 source with ⟨hloaded, hfails⟩ |
      ⟨before, name, e, hrequests, hbefore, hname, herror⟩
    · rw [hnone hloaded]
      exact .inl ⟨fun r hr => (List.not_mem_nil hr).elim, fun name limit h => hfails _ h⟩
    · rw [hrequests, hnone hbefore, herror, ← hname]
      exact .inr ⟨[], name, rfl, fun r hr => (List.not_mem_nil hr).elim, rfl⟩
  | succ depth ih =>
    -- below a template that is there, every include may be opened
    have hall : ∀ names : List String,
        (∀ name ∈ names, ∃ body, engine.included (depth + 1) name = .ok body) →
        ∀ r ∈ names.flatMap (engine.opened (engine.reached depth) (depth + 1)), r.2 ≠ 0 := by
      intro names hnames r hr
      obtain ⟨name, hname, hr⟩ := List.mem_flatMap.1 hr
      obtain ⟨body, hbody⟩ := hnames name hname
      have hopened := engine.reportsLimit_included ih name
      rw [hbody] at hopened
      exact hopened.ne_zero_of_ok r hr
    rw [reached]
    rcases requests_cases (depth + 1) source with ⟨hloaded, hfails⟩ |
      ⟨before, name, e, hrequests, hbefore, hname, herror⟩
    · exact .inl ⟨hall _ hloaded, fun name limit h => hfails _ h⟩
    · rw [hrequests, List.flatMap_append, List.flatMap_singleton, herror, ← hname]
      exact (engine.reportsLimit_included ih name).append (hall before hbefore)

/-- The templates that are read are all that compiling depends on. -/
theorem compile_congr_of_reads {depth : Nat} {source : String} {fs : FileSystem}
    (h : ∀ name ∈ engine.reads depth source, fs.read name = engine.fileSystem.read name) :
    { engine with fileSystem := fs }.compile depth source = engine.compile depth source := by
  induction depth generalizing source with
  | zero => rfl
  | succ depth ih =>
    have hmem : ∀ {name : String} {r : String × Nat},
        name ∈ Template.requests (engine.dialect (depth + 1)) (tokenize source) →
        r ∈ engine.opened (engine.reached depth) (depth + 1) name → r.2 ≠ 0 →
        fs.read r.1 = engine.fileSystem.read r.1 := by
      intro name r hname hr hne
      refine h r.1 (List.mem_map_of_mem (List.mem_filter.2 ⟨?_, bne_iff_ne.2 hne⟩))
      rw [reached]
      exact List.mem_flatMap.2 ⟨name, hname, hr⟩
    rw [compile_eq, compile_eq]
    refine (Template.parseTokens_congr fun name hname => ?_).1.symm
    have hread : fs.read name = engine.fileSystem.read name :=
      hmem hname List.mem_cons_self (Nat.succ_ne_zero depth)
    rw [included, included, hread]
    cases htext : engine.fileSystem.read name with
    | error e => rfl
    | ok text =>
      refine (ih fun other hother => ?_).symm
      obtain ⟨r, hr, rfl⟩ := List.mem_map.1 hother
      obtain ⟨hr, hne⟩ := List.mem_filter.1 hr
      refine hmem hname ?_ (bne_iff_ne.1 hne)
      rw [opened, htext, toOption_ok, Option.toList_some, List.flatMap_singleton]
      exact List.mem_cons_of_mem _ hr

/-! ### Greater depths -/

/-- A greater depth only matters where the limit was reached. -/
theorem compile_of_le {depth depth' : Nat} (hle : depth ≤ depth') {source : String}
    (h : ∀ name limit, engine.compile depth source ≠ .error (.includeDepthExceeded name limit)) :
    engine.compile depth' source = engine.compile depth source := by
  induction depth generalizing depth' source with
  | zero =>
    -- nothing is included at all
    rw [compile_eq, compile_eq]
    refine (Template.parseTokens_congr fun name hname => ?_).1.symm
    rcases requests_cases 0 source with ⟨hloaded, -⟩ | ⟨before, last, e, -, -, hlast, herror⟩
    · obtain ⟨body, hbody⟩ := hloaded name hname
      cases hbody
    · rw [included_zero] at hlast
      rw [← hlast] at herror
      exact (h _ _ herror).elim
  | succ depth ih =>
    obtain ⟨depth', rfl⟩ := Nat.exists_eq_add_of_le' (Nat.le_trans (Nat.le_add_left 1 depth) hle)
    rw [compile_eq, compile_eq]
    refine (Template.parseTokens_congr fun name hname => ?_).1.symm
    -- the template does not reach the limit, or the source would
    have hne : ∀ other limit, engine.included (depth + 1) name ≠
        .error (.includeDepthExceeded other limit) := by
      intro other limit hexceeded
      rcases requests_cases (depth + 1) source with ⟨hloaded, -⟩ |
        ⟨before, last, e, hrequests, hbefore, hlast, herror⟩
      · obtain ⟨body, hbody⟩ := hloaded name hname
        rw [hexceeded] at hbody
        cases hbody
      · have hmem : name ∈ before ++ [last] := hrequests ▸ hname
        rcases List.mem_append.1 hmem with hmem | hmem
        · obtain ⟨body, hbody⟩ := hbefore name hmem
          rw [hexceeded] at hbody
          cases hbody
        · rw [List.mem_singleton.1 hmem, hlast] at hexceeded
          cases hexceeded
          exact h _ _ herror
    show engine.included (depth + 1) name = engine.included (depth' + 1) name
    rw [included, included]
    rw [included] at hne
    cases htext : engine.fileSystem.read name with
    | error e => rfl
    | ok text =>
      rw [htext, ok_bind] at hne
      exact (ih (Nat.le_of_succ_le_succ hle) hne).symm

end Engine

end Liquid
