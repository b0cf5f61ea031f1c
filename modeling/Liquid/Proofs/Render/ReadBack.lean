import Liquid.Proofs.Document.Derivation
import Liquid.Proofs.Expression.Constants
import Liquid.Proofs.Loop.Grid
import Liquid.Proofs.Render.Agreement
import Liquid.Proofs.Text.Quoted
import Liquid.Proofs.Token.Canonical

/-!
# Reading back what was bound

The tags that bind a name read it by rules of their own, and an output reads it as an expression.
Over ASCII the two agree, but for the names that are constants.

- `BoundName`: the names that tags bind, with `BoundName.isNameChar` for their characters.
- `Node.reading`, `Engine.parse_reading`: the output of a name by itself, and its source.
- `Context.Prints`: a name is bound and its output prints a given value.
- `Context.prints_set`, `Node.prints_assign`, `Node.prints_capture`, `prints_bindIteration`: a tag
  has bound a name, and the output of the name prints what was bound.
- `Node.render_loop_reading`, `Node.outcome_cell_reading`: the same over all iterations of a loop.
- `BoundName.read_back`: a bound name is a constant, or it is a path and is read back.

What is known of an iteration is bound behind its item, and so a loop hides its item where this has
the name that the other goes by.
-/

namespace Liquid

open Text Rendering

/-! ### The names that tags bind -/

section Names

variable {s name : List Char}

theorem isWord_of_word? (h : Markup.word? s = some name) :
    name ≠ [] ∧ ∀ c ∈ name, isWord c = true := by
  obtain ⟨hword, heq⟩ := Option.ite_none_left_eq_some.1 h
  cases heq
  rw [Bool.or_eq_true, not_or, List.isEmpty_iff, Bool.not_eq_true', Bool.not_eq_false] at hword
  exact ⟨hword.1, List.all_eq_true.1 hword.2⟩

theorem isWord_of_assignment? {value : List Char} (h : Markup.assignment? s = some (name, value)) :
    name ≠ [] ∧ ∀ c ∈ name, isWord c = true ∨ c = '-' := by
  rw [Markup.assignment?] at h
  split at h
  · obtain ⟨hempty, heq⟩ := Option.ite_none_left_eq_some.1 h
    cases heq
    rw [Bool.or_eq_true, not_or, List.isEmpty_iff] at hempty
    refine ⟨hempty.1, fun c hc => ?_⟩
    have hclass := List.all_eq_true.1 List.all_takeWhile c hc
    rwa [Bool.or_eq_true, beq_iff_eq] at hclass
  · cases h

theorem isWord_of_splitLoop? {collection options : List Char}
    (h : splitLoop? s = some (name, collection, options)) :
    name ≠ [] ∧ ∀ c ∈ name, isWord c = true := by
  rw [splitLoop?] at h
  split at h
  · obtain ⟨hempty, hfound⟩ := Option.ite_none_left_eq_some.1 h
    obtain ⟨found, -, heq⟩ := Option.map_eq_some_iff.1 hfound
    cases heq
    simp only [Bool.or_eq_true, not_or, List.isEmpty_iff] at hempty
    exact ⟨hempty.1.1, List.all_eq_true.1 List.all_takeWhile⟩
  · cases h

end Names

/-- The names that `assign`, `capture` and the headers of loops bind. -/
inductive BoundName : String → Prop where
  /-- By an `assign`. -/
  | assign {markup name : String} {pipeline : Pipeline}
    (h : Block.parseAssign markup = .ok (.assign name pipeline)) : BoundName name
  /-- By a `capture`. -/
  | capture {markup name : String} (h : Block.parseCapture markup = .ok (.capture name)) :
    BoundName name
  /-- By a `for` or a `tablerow`. -/
  | loop {tag markup : String} {header : LoopHeader}
    (h : LoopHeader.parse tag markup = .ok header) : BoundName header.itemName

namespace BoundName

variable {name : String}

/-- A name has a character, and hyphens and the characters of words only. -/
theorem word_or_hyphen (h : BoundName name) :
    name.toList ≠ [] ∧ ∀ c ∈ name.toList, isWord c = true ∨ c = '-' := by
  cases h with
  | @assign markup _ pipeline h =>
    rw [Block.parseAssign] at h
    cases hparts : Markup.assignment? markup.toList with
    | none =>
      rw [hparts] at h
      cases h
    | some parts =>
      rw [hparts] at h
      obtain ⟨p, -, heq⟩ := bind_eq_ok_iff.1 h
      cases heq
      rw [String.toList_ofList]
      exact isWord_of_assignment? hparts
  | @capture markup _ h =>
    rw [Block.parseCapture] at h
    cases hword : Markup.word? markup.toList with
    | none =>
      rw [hword] at h
      cases h
    | some word =>
      rw [hword] at h
      cases h
      rw [String.toList_ofList]
      obtain ⟨hne, hchars⟩ := isWord_of_word? hword
      exact ⟨hne, fun c hc => .inl (hchars c hc)⟩
  | @loop tag markup header h =>
    rw [LoopHeader.parse] at h
    cases hparts : splitLoop? markup.toList with
    | none =>
      rw [hparts] at h
      cases h
    | some parts =>
      rw [hparts] at h
      obtain ⟨attributes, -, h⟩ := bind_eq_ok_iff.1 h
      obtain ⟨collection, -, heq⟩ := bind_eq_ok_iff.1 h
      cases heq
      rw [String.toList_ofList]
      obtain ⟨hne, hchars⟩ := isWord_of_splitLoop? hparts
      exact ⟨hne, fun c hc => .inl (hchars c hc)⟩

theorem ne_nil (h : BoundName name) : name.toList ≠ [] := h.word_or_hyphen.1

/-- Over ASCII, the names that are bound have the characters of names in paths. -/
theorem isNameChar (h : BoundName name) (hascii : ∀ c ∈ name.toList, c.toNat < 0x80) :
    ∀ c ∈ name.toList, Expression.isNameChar c = true := by
  intro c hc
  rw [Expression.isNameChar]
  rcases h.word_or_hyphen.2 c hc with hword | rfl
  · rw [isWord] at hword
    rw [if_pos (hascii c hc)] at hword
    rw [hword]
    rfl
  · rfl

end BoundName

/-! ### The output of a name -/

/-- The output of a name by itself. -/
def Node.reading (name : String) : Node := .output ⟨some (.path name [] name), []⟩

section Reading

variable {name : String} (hne : name.toList ≠ [])
  (hname : ∀ c ∈ name.toList, Expression.isNameChar c = true)
  (hparse : Expression.parse name.toList = .ok (.path name [] name))
include hne hname hparse

theorem Pipeline.parse_reading :
    Pipeline.parse (" " ++ name ++ " ") = .ok ⟨some (.path name [] name), []⟩ := by
  have hchars : (" " ++ name ++ " ").toList = [' '] ++ (name.toList ++ [' ']) := by
    rw [String.toList_append, String.toList_append, List.append_assoc]
    rfl
  have hbar : isBlank '|' = false := rfl
  have hbalanced : Balanced (· != '|') ([' '] ++ (name.toList ++ [' '])) := by
    refine (allBlank_space.balanced hbar).append (.append ?_ (allBlank_space.balanced hbar))
    exact .of_forall fun c hc => ⟨Expression.isMark_of_isNameChar (hname c hc),
      bne_iff_ne.2 (ne_of_class (hname c hc) rfl)⟩
  have htight : Tight name.toList :=
    .of_forall hne fun c hc => Expression.not_isBlank_of_isNameChar (hname c hc)
  rw [Pipeline.parse, hchars, hbalanced.splitUnquoted_eq]
  simp only [List.headD_cons, List.tail_cons, List.mapM_nil,
    htight.trim_surrounded allBlank_space allBlank_space, List.isEmpty_eq_false_iff.2 hne, hparse]
  rfl

omit hne hparse in
/-- Nothing in a name closes the output around it. -/
theorem tokenize_reading :
    tokenize ("\x7b\x7b " ++ name ++ " \x7d\x7d") = [.output (" " ++ name ++ " ")] := by
  have hclosed : '}' ∉ (" " ++ name ++ " ").toList := by
    rw [String.toList_append, String.toList_append, List.mem_append, List.mem_append]
    rintro ((h | h) | h)
    · exact absurd h (by decide)
    · exact absurd (hname '}' h) (by decide)
    · exact absurd h (by decide)
  have hcanonical : Token.Canonical [.output (" " ++ name ++ " ")] :=
    ⟨⟨fun h => hclosed (h.subset List.mem_cons_self),
      fun h => hclosed (h.subset List.mem_cons_self)⟩, trivial⟩
  refine (Token.tokenize_eq_iff _ _).2 ⟨hcanonical, String.toList_inj.1 ?_⟩
  rw [List.map_singleton, String.join_cons, String.join_nil, String.append_empty, Token.source]
  simp only [String.toList_ofList, String.toList_append, List.append_assoc]
  rfl

theorem Engine.parse_reading (engine : Engine) :
    engine.parse ("\x7b\x7b " ++ name ++ " \x7d\x7d") = .ok ⟨none, [.reading name]⟩ := by
  rw [Engine.parse, Engine.compile_eq, tokenize_reading hname, Template.parseTokens,
    Progress.readAll, Progress.read]
  dsimp only
  rw [Pipeline.parse_reading hne hname hparse]
  rfl

end Reading

/-! ### What it prints -/

/-- What the output of a name prints that is bound to a value: its text, where a drop that stands
for a value gives way to it. -/
def Value.printed (v : Value) : String := v.normalize.toText

/-- The output of the name prints the value, and changes nothing. -/
def Context.Prints (c : Context) (name : String) (v : Value) : Prop :=
  (Node.reading name).render c = (.ok v.printed, c)

variable {name : String} {c : Context}

/-- The output of a name prints the value that is found under it. -/
theorem Context.prints_of_find? {v : Value} (h : c.find? name = some v) : c.Prints name v := by
  have hvalue : (Pipeline.mk (some (.path name [] name)) []).evaluate c = .ok v.normalize := by
    show Except.ok ((Expression.path name [] name).evaluate c) = _
    rw [Expression.evaluate_name, Context.root, h]
    rfl
  rw [Context.Prints, Node.reading, Node.render]
  simp only [hvalue]
  rfl

theorem Context.prints_set (hdepth : 0 < c.depth) (v : Value) : (c.set name v).Prints name v :=
  prints_of_find? (by rw [find?_set hdepth, if_pos rfl])

/-- Behind an `assign`, the name prints what was assigned. -/
theorem Node.prints_assign (hdepth : 0 < c.depth) {pipeline : Pipeline} {v : Value}
    (h : pipeline.evaluate c = .ok v) : ((Node.assign name pipeline).render c).2.Prints name v := by
  simp only [Node.render, h]
  exact Context.prints_set hdepth v

/-- Behind a `capture`, the name prints the output of the body. -/
theorem Node.prints_capture (hdepth : 0 < c.depth) {body : List Node} {output : String}
    (h : (inScope (renderAll body) c).1 = .ok output) :
    ((Node.capture name body).render c).2.Prints name (.string output) := by
  have hscope : (inScope (renderAll body) c).2.depth = c.depth :=
    ((renderAll_changesOnly_any body).inScope (fun _ => True) c).depth
  have hresult : inScope (renderAll body) c = (.ok output, (inScope (renderAll body) c).2) :=
    Prod.ext h rfl
  rw [Node.render, bindTo, hresult]
  exact Context.prints_set (by rwa [hscope]) _

/-- In an iteration the name of the item prints the item, unless what is known of the iteration has
that name. -/
theorem prints_bindIteration (hdepth : 0 < c.depth) {metaName : String} (hname : name ≠ metaName)
    (item : Value) (data : Keyed Value) :
    (bindIteration name metaName item data c).Prints name item := by
  refine Context.prints_of_find? ?_
  rw [bindIteration, Context.find?_set (by rwa [Context.depth_set]), if_neg hname.symm,
    Context.find?_set hdepth, if_pos rfl]

/-! ### Loops -/

theorem renderAll_reading {v : Value} (h : c.Prints name v) :
    renderAll [.reading name] c = (.ok v.printed, c) := by
  rw [renderAll, andThen, show (Node.reading name).render c = _ from h]
  simp only [renderAll, emit, String.append_empty]

/-- Iterations that print their items print one behind the other. Every iteration begins in a
context with a scope, since none of them closes it. -/
theorem eachBehind_reading {metaName : String} (hname : name ≠ metaName)
    (iterations : List (Value × Keyed Value)) (hdepth : 0 < c.depth) (before : String) :
    (eachBehind (fun iteration : Value × Keyed Value =>
        after (bindIteration name metaName iteration.1 iteration.2) (renderAll [.reading name]))
      iterations before c).1 =
      .ok (before ++ String.join (iterations.map fun iteration => iteration.1.printed)) := by
  induction iterations generalizing before c with
  | nil =>
    rw [List.map_nil, String.join_nil, String.append_empty]
    rfl
  | cons iteration rest ih =>
    have hprints := prints_bindIteration hdepth hname iteration.1 iteration.2
    rw [eachBehind, after, renderAll_reading hprints, List.map_cons, String.join_cons,
      ← String.append_assoc]
    exact ih (by rwa [LoopHeader.depth_bindIteration]) _

/-- A `for` whose body is the output of its variable prints the items that it goes over. -/
theorem Node.render_loop_reading {header : LoopHeader} (hname : header.itemName ≠ "forloop")
    (hlength : (header.items c).length ≠ 0) (otherwise : List Node) :
    ((Node.loop header [.reading header.itemName] otherwise).render c).1 =
      .ok (String.join (((header.part c).values header.reversed).map Value.printed)) := by
  have hdepth : 0 < (c.setRegisterEntry LoopHeader.bookmarks header.name
      (.ofNat (header.offset c + (header.part c).length))).push.depth := Nat.succ_pos _
  have hitems : (header.iterations c).map (fun iteration => iteration.1.printed) =
      ((header.part c).values header.reversed).map Value.printed := by
    conv_rhs => rw [← List.zipIdx_map_fst 0 ((header.part c).values header.reversed)]
    rw [LoopHeader.iterations, List.map_map, List.map_map]
    rfl
  have houtput := eachBehind_reading hname (header.iterations c) hdepth ""
  rw [hitems, String.empty_append] at houtput
  rw [Node.render_loop hlength]
  exact houtput

/-- In every cell of a `tablerow` whose body is the output of its variable, the item is printed. -/
theorem Node.outcome_cell_reading {header : LoopHeader} (hname : header.itemName ≠ "tablerowloop")
    (k : Nat) :
    outcome (header.cell c [.reading header.itemName]) c.push k =
      .ok (((header.part c).values false).getD k .nil).printed := by
  have hdepth : 0 < (reached (header.cell c [.reading header.itemName]) c.push k).depth := by
    have henter : ∀ k d, (header.enterCell c k d).depth = d.depth :=
      fun _ d => LoopHeader.depth_bindIteration _ _ _ _ d
    exact LoopHeader.depth_reached [.reading header.itemName] henter c.push k ▸ Nat.succ_pos _
  exact congrArg Prod.fst (renderAll_reading (prints_bindIteration hdepth hname _ _))

/-! ### Bound names -/

/-- Over ASCII, a name that a tag binds is read as a constant where it is a keyword or an integer.
Any other is a path by itself, and its output prints what was bound: behind an `assign` or a
`capture`, and in every iteration of a loop that does not bind what is known of the iteration to the
same name. -/
theorem BoundName.read_back {name : String} (h : BoundName name)
    (hascii : ∀ c ∈ name.toList, c.toNat < 0x80) :
    ((∃ v, Expression.parse name.toList = .ok (.literal v)) ↔
      name ∈ Expression.keywords ∨ Expression.IsInt64 name.toList)
    ∧ (name ∉ Expression.keywords → ¬ Expression.IsInt64 name.toList →
      Expression.parse name.toList = .ok (.path name [] name)
      ∧ (∀ engine : Engine,
        engine.parse ("\x7b\x7b " ++ name ++ " \x7d\x7d") = .ok ⟨none, [.reading name]⟩)
      ∧ (∀ c : Context, 0 < c.depth →
        (∀ pipeline v, pipeline.evaluate c = .ok v →
          ((Node.assign name pipeline).render c).2.Prints name v)
        ∧ (∀ body output, (inScope (renderAll body) c).1 = .ok output →
          ((Node.capture name body).render c).2.Prints name (.string output))
        ∧ (∀ item data, name ≠ "forloop" →
          (bindIteration name "forloop" item data c).Prints name item)
        ∧ ∀ item data, name ≠ "tablerowloop" →
          (bindIteration name "tablerowloop" item data c).Prints name item)
      ∧ ∀ (header : LoopHeader) (c : Context), header.itemName = name →
        (∀ otherwise, name ≠ "forloop" → (header.items c).length ≠ 0 →
          ((Node.loop header [.reading name] otherwise).render c).1 =
            .ok (String.join (((header.part c).values header.reversed).map Value.printed)))
        ∧ ∀ k < (header.part c).length, name ≠ "tablerowloop" →
          outcome (header.cell c [.reading name]) c.push k =
            .ok (((header.part c).values false).getD k .nil).printed) := by
  have hname := h.isNameChar hascii
  have hliteral := Expression.exists_parse_literal_iff h.ne_nil hname
  rw [String.ofList_toList] at hliteral
  refine ⟨hliteral, fun hkeyword hinteger => ?_⟩
  have hparse := Expression.parse_variable_name h.ne_nil hname
    (by rwa [String.ofList_toList]) hinteger
  rw [String.ofList_toList] at hparse
  refine ⟨hparse, Engine.parse_reading h.ne_nil hname hparse, fun c hdepth => ⟨?_, ?_, ?_, ?_⟩, ?_⟩
  · exact fun _ _ hvalue => Node.prints_assign hdepth hvalue
  · exact fun _ _ houtput => Node.prints_capture hdepth houtput
  · exact fun item data hother => prints_bindIteration hdepth hother item data
  · exact fun item data hother => prints_bindIteration hdepth hother item data
  · rintro header c rfl
    exact ⟨fun otherwise hother hitems => Node.render_loop_reading hother hitems otherwise,
      fun k _ hother => Node.outcome_cell_reading hother k⟩

/-- A name with a hyphen in it. -/
theorem BoundName.read_back_hyphen :
    BoundName "x-1" ∧ "x-1".toList.all (fun c => decide (c.toNat < 0x80)) = true
      ∧ "x-1" ∉ Expression.keywords ∧ ¬ Expression.IsInt64 "x-1".toList
      ∧ Expression.parse "x-1".toList = .ok (.path "x-1" [] "x-1")
      ∧ ((Node.assign "x-1" ⟨some (.literal (.integer 5)), []⟩).render
        ⟨[[]], [], [], .none⟩).2.Prints "x-1" (.integer 5) := by
  have hvalue : Expression.parse "5".toList = .ok (.literal (.integer 5)) :=
    Expression.parse_of_constant? rfl
  have hassign : Block.parseAssign "x-1 = 5" =
      .ok (.assign "x-1" ⟨some (.literal (.integer 5)), []⟩) := by
    have hparts : Markup.assignment? "x-1 = 5".toList = some ("x-1".toList, "5".toList) := rfl
    have hpieces : splitUnquoted '|' "5".toList = ["5".toList] := rfl
    have htrim : trim "5".toList = "5".toList := rfl
    rw [Block.parseAssign, hparts]
    simp only [String.ofList_toList, Pipeline.parse, hpieces, List.headD_cons, htrim, hvalue]
    rfl
  have hbound : BoundName "x-1" := .assign hassign
  have hascii : "x-1".toList.all (fun c => decide (c.toNat < 0x80)) = true := rfl
  have hkeyword : "x-1" ∉ Expression.keywords := by decide
  have hinteger : ¬ Expression.IsInt64 "x-1".toList := by
    intro hinteger
    obtain ⟨i, hi⟩ := Expression.exists_integer?_iff.2 hinteger
    cases hi
  obtain ⟨-, hread⟩ := BoundName.read_back hbound fun c hc =>
    of_decide_eq_true (List.all_eq_true.1 hascii c hc)
  obtain ⟨hparse, -, hprints, -⟩ := hread hkeyword hinteger
  exact ⟨hbound, hascii, hkeyword, hinteger, hparse,
    (hprints ⟨[[]], [], [], .none⟩ Nat.zero_lt_one).1 _ _ rfl⟩

/-- Four names that are bound and not read back: a keyword, an integer, a letter beyond ASCII, and
the name of what is known of an iteration. -/
theorem BoundName.not_read_back :
    (BoundName "nil" ∧ Expression.parse "nil".toList = .ok (.literal .nil))
    ∧ (BoundName "7" ∧ Expression.parse "7".toList = .ok (.literal (.integer 7)))
    ∧ (BoundName "é" ∧ Expression.parse "é".toList = .error (.markup .variableName "é"))
    ∧ ∃ header : LoopHeader, LoopHeader.parse "for" "forloop in 5" = .ok header
      ∧ header.itemName = "forloop" ∧ header.elements ⟨[[]], [], [], .none⟩ = [.integer 5]
      ∧ ((Node.loop header [.reading "forloop"] []).render ⟨[[]], [], [], .none⟩).1 ≠ .ok "5" := by
  have hcapture : ∀ name : String,
      Markup.word? name.toList = some name.toList → BoundName name := by
    intro name hword
    have hcapture : Block.parseCapture name = .ok (.capture name) := by
      rw [Block.parseCapture, hword]
      exact congrArg (fun name => Except.ok (Block.capture name)) String.ofList_toList
    exact .capture hcapture
  refine ⟨⟨hcapture _ (by decide +kernel), Expression.parse_of_constant? rfl⟩,
    ⟨hcapture _ (by decide +kernel), Expression.parse_of_constant? rfl⟩,
    ⟨hcapture _ (by decide +kernel), ?_⟩, ?_⟩
  · rw [Expression.parse_eq_parsePath (by decide +kernel) (by decide +kernel) (by decide +kernel)]
    rfl
  · have hvalue : Expression.parse "5".toList = .ok (.literal (.integer 5)) :=
      Expression.parse_of_constant? rfl
    have hattributes : Markup.attributes [] = [] := by rw [Markup.attributes]
    have hparts : splitLoop? "forloop in 5".toList = some ("forloop".toList, "5".toList, []) := rfl
    refine ⟨⟨"forloop", .literal (.integer 5), "forloop-5", [], false⟩, ?_, rfl, rfl, ?_⟩
    · rw [LoopHeader.parse, hparts]
      simp only [hattributes, hvalue, List.mapM_nil]
      rfl
    · intro houtput
      have hother : ((Node.loop ⟨"forloop", .literal (.integer 5), "forloop-5", [], false⟩
          [.reading "forloop"] []).render ⟨[[]], [], [], .none⟩).1.toOption ≠ some "5" := by
        decide +kernel
      exact hother (congrArg Except.toOption houtput)

end Liquid
