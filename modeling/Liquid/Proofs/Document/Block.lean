import Liquid.Proofs.Document.Grammar
import Liquid.Proofs.Except

/-!
# Blocks and their delimiters

The parser knows a block only by what its next delimiter does to it; the grammar of documents says
at once which delimiters it may have. Here the two are the same.

- `Block.close?`: the node that a block ends in when given bodies and delimiters follow, one
  delimiter after the other.
- `Block.delimit?_builtin`: no built-in tag is a delimiter, so that what stands inside a body never
  ends it.
- `Block.blockNode?_eq_some_iff`: the rules of the grammar are what delimiters do to the blocks that
  built-in tags open.
-/

namespace Liquid

namespace BuiltinTag

theorem mem_all_of_ofName? {name : String} {tag : BuiltinTag} (h : ofName? name = some tag) :
    (name, tag) ∈ all := by
  obtain ⟨before, behind, hall, -⟩ := List.lookup_eq_some_iff.1 h
  rw [hall]
  exact List.mem_append_right before List.mem_cons_self

/-- A built-in tag has none of the names that divide or end blocks. -/
theorem ne_of_ofName? {name : String} {tag : BuiltinTag} (h : ofName? name = some tag) :
    name ≠ "else" ∧ name ≠ "elsif" ∧ name ≠ "when" ∧ ∀ s, name ≠ "end" ++ s := by
  have hmem := mem_all_of_ofName? h
  have hend : ∀ s, ¬ "end".toList <+: name.toList → name ≠ "end" ++ s := by
    rintro s hpre rfl
    exact hpre ⟨s.toList, by rw [String.toList_append]⟩
  -- none of the names is a delimiter, and none of them begins with `end`
  simp only [all, List.mem_cons, Prod.mk.injEq, List.not_mem_nil, or_false] at hmem
  rcases hmem with h | h | h | h | h | h | h | h | h | h | h <;> obtain ⟨rfl, -⟩ := h <;>
    exact ⟨by decide, by decide, by decide, fun s => hend s (by decide)⟩

end BuiltinTag

namespace Block

/-- What a delimiter does to a `case` that `delimitCase?` says so of. -/
theorem delimitCase?_builtin {subject : Expression} {clauses : List (List Expression × List Node)}
    {otherwise : List Node} {name markup : String} {tag : BuiltinTag}
    (h : BuiltinTag.ofName? name = some tag) :
    delimitCase? subject clauses otherwise name markup = none := by
  obtain ⟨helse, -, hwhen, hend⟩ := BuiltinTag.ne_of_ofName? h
  have hendcase : name ≠ "endcase" := hend "case"
  rw [delimitCase?, if_neg hwhen, if_neg helse, if_neg hendcase]

/-- No built-in tag is a delimiter. -/
theorem delimit?_builtin (block : Block) {name : String} (markup : String) (body : List Node)
    {tag : BuiltinTag} (h : BuiltinTag.ofName? name = some tag) :
    block.delimit? name markup body = none := by
  obtain ⟨helse, helsif, hwhen, hend⟩ := BuiltinTag.ne_of_ofName? h
  cases block with
  | capture target => exact if_neg (hend "capture")
  | table header => exact if_neg (hend "tablerow")
  | loop header =>
    have hendfor : name ≠ "endfor" := hend "for"
    rw [delimit?, if_neg helse, if_neg hendfor]
  | loopElse header first => exact if_neg (hend "for")
  | branch negated branches condition =>
    simp only [delimit?, if_neg helsif, if_neg helse, if_neg (hend _)]
  | branchElse negated branches => exact if_neg (hend _)
  | caseHead subject => exact delimitCase?_builtin h
  | clause subject clauses otherwise values => exact delimitCase?_builtin h
  | caseElse subject clauses => exact delimitCase?_builtin h
  | host tag delimiters action arguments bodies =>
    have hbuiltin : (BuiltinTag.ofName? name).isSome = true := by
      rw [h]
      rfl
    rw [delimit?, delimiters.builtin _ _ hbuiltin]

/-- The node that a block ends in, when it has read `body` and then come `parts`, each a delimiter
and a body, and a last delimiter. -/
def close? (block : Block) (body : List Node) (closing : NamedTag) :
    List (NamedTag × List Node) → Option Node
  | [] =>
    match block.delimit? closing.1 closing.2 body with
    | some (.ok (.done node)) => some node
    | _ => none
  | ((name, markup), next) :: parts =>
    match block.delimit? name markup body with
    | some (.ok (.next block)) => close? block next closing parts
    | _ => none

theorem close?_nil_eq_some_iff {block : Block} {body : List Node} {closing : NamedTag}
    {node : Node} :
    block.close? body closing [] = some node ↔
      block.delimit? closing.1 closing.2 body = some (.ok (.done node)) := by
  rw [close?]
  split
  · next node' h => simp [h]
  · next hne =>
    constructor
    · intro h
      cases h
    · intro h
      exact (hne node h).elim

theorem close?_cons_eq_some_iff {block : Block} {body next : List Node} {named closing : NamedTag}
    {parts : List (NamedTag × List Node)} {node : Node} :
    block.close? body closing ((named, next) :: parts) = some node ↔
      ∃ block', block.delimit? named.1 named.2 body = some (.ok (.next block'))
        ∧ block'.close? next closing parts = some node := by
  rw [close?]
  split
  · next block' h => simp [h]
  · next hne =>
    constructor
    · intro h
      cases h
    · rintro ⟨block', h, -⟩
      exact (hne block' h).elim

/-! ### The blocks of the grammar -/

section

variable {body : List Node} {parts : List (NamedTag × List Node)} {closing : NamedTag}

/-- A block with a single body, which only the tag `ending` ends. -/
theorem close?_single {block : Block} {ending : String} {node : List Node → Node}
    (h : ∀ name markup body, block.delimit? name markup body =
      if name = ending then some (.ok (.done (node body))) else none) :
    block.close? body closing parts =
      if closing.1 = ending then (if parts.isEmpty then some (node body) else none) else none := by
  cases parts with
  | nil =>
    rw [close?, h]
    by_cases hc : closing.1 = ending
    · simp only [if_pos hc, List.isEmpty_nil, if_true]
    · simp only [if_neg hc]
  | cons part parts =>
    obtain ⟨⟨name, markup⟩, next⟩ := part
    rw [close?, h]
    by_cases hn : name = ending
    · simp [if_pos hn]
    · simp [if_neg hn]

theorem close?_loop (header : LoopHeader) :
    (loop header).close? body closing parts =
      if closing.1 = "endfor" then (Item.otherwise? parts).map (.loop header body) else none := by
  have hend : "endfor" ≠ "else" := by decide
  cases parts with
  | nil =>
    rw [close?, delimit?]
    by_cases hc : closing.1 = "endfor"
    · simp [hc, hend, Item.otherwise?]
    · by_cases he : closing.1 = "else" <;> simp [hc, he]
  | cons part rest =>
    obtain ⟨⟨name, markup⟩, next⟩ := part
    rw [close?, delimit?]
    by_cases he : name = "else"
    · -- behind the `else` only the end of the loop may come
      have hsingle : ∀ name markup last, (loopElse header body).delimit? name markup last =
          if name = "endfor" then some (.ok (.done (.loop header body last))) else none :=
        fun _ _ _ => rfl
      simp only [if_pos he, close?_single hsingle]
      cases rest with
      | nil => simp [Item.otherwise?, he]
      | cons part rest => simp [Item.otherwise?]
    · have hnone : Item.otherwise? (((name, markup), next) :: rest) = none := by
        cases rest <;> simp [Item.otherwise?, he]
      rw [hnone]
      by_cases hn : name = "endfor" <;> simp [he, hn]

theorem close?_branch (negated : Bool) (branches : List (Condition × List Node))
    (condition : Condition) :
    (branch negated branches condition).close? body closing parts =
      if closing.1 = "end" ++ branchTag negated then
        (Item.branches? parts).map fun more =>
          .branch negated (branches ++ (condition, body) :: more.1) more.2
      else none := by
  have helsif : "end" ++ branchTag negated ≠ "elsif" := by cases negated <;> decide
  have helse : "end" ++ branchTag negated ≠ "else" := by cases negated <;> decide
  induction parts generalizing branches condition body with
  | nil =>
    rw [close?]
    simp only [delimit?]
    by_cases hc : closing.1 = "end" ++ branchTag negated
    · simp [hc, helsif, helse, Item.branches?]
    · by_cases h₁ : closing.1 = "elsif"
      · cases hp : Condition.parse closing.2 <;> simp [h₁, helsif.symm]
      · by_cases h₂ : closing.1 = "else" <;> simp [hc, h₂, helse.symm, h₁]
  | cons part rest ih =>
    obtain ⟨⟨name, markup⟩, next⟩ := part
    rw [close?, Item.branches?]
    simp only [delimit?]
    by_cases h₁ : name = "elsif"
    · simp only [if_pos h₁]
      cases hp : Condition.parse markup with
      | error e => simp
      | ok condition' =>
        -- the branch that ends here goes to the others, which the induction leaves open
        simp only [bind_pure_comp, ok_map, ih]
        cases Item.branches? rest <;> simp
    · simp only [if_neg h₁]
      by_cases h₂ : name = "else"
      · -- behind the `else` only the end of the block may come
        have hsingle : ∀ name markup last,
            (branchElse negated (branches ++ [(condition, body)])).delimit? name markup last =
              if name = "end" ++ branchTag negated then
                some (.ok (.done (.branch negated (branches ++ [(condition, body)]) last)))
              else none := fun _ _ _ => rfl
        simp only [if_pos h₂, close?_single hsingle]
        cases rest <;> simp [h₂]
      · by_cases h₃ : name = "end" ++ branchTag negated <;> simp [h₂, h₃, helse]

theorem close?_case {block : Block} {subject : Expression}
    {clauses : List (List Expression × List Node)} {otherwise : List Node}
    (h : ∀ name markup, block.delimit? name markup body =
      delimitCase? subject clauses otherwise name markup) :
    block.close? body closing parts =
      if closing.1 = "endcase" then
        (Item.clauses? parts).map fun more =>
          .case subject (clauses ++ more.1) (more.2.getD otherwise)
      else none := by
  have hwhen : "endcase" ≠ "when" := by decide
  have helse : "endcase" ≠ "else" := by decide
  induction parts generalizing block clauses otherwise body with
  | nil =>
    rw [close?, h, delimitCase?]
    by_cases hc : closing.1 = "endcase"
    · simp [hc, hwhen, helse, Item.clauses?]
    · by_cases h₁ : closing.1 = "when"
      · cases hp : parseWhen closing.2 <;> simp [h₁]
      · by_cases h₂ : closing.1 = "else" <;> simp [hc, h₁, h₂]
  | cons part rest ih =>
    obtain ⟨⟨name, markup⟩, next⟩ := part
    rw [close?, h, delimitCase?, Item.clauses?]
    by_cases h₁ : name = "when"
    · simp only [if_pos h₁]
      cases hp : parseWhen markup with
      | error e => simp
      | ok values =>
        have hnext : (clause subject clauses otherwise values).close? next closing rest =
            if closing.1 = "endcase" then
              (Item.clauses? rest).map fun more =>
                .case subject (clauses ++ [(values, next)] ++ more.1) (more.2.getD otherwise)
            else none := ih fun _ _ => rfl
        simp only [bind_pure_comp, ok_map, hnext]
        cases Item.clauses? rest <;> simp
    · simp only [if_neg h₁]
      by_cases h₂ : name = "else"
      · have hnext : (caseElse subject clauses).close? next closing rest =
            if closing.1 = "endcase" then
              (Item.clauses? rest).map fun more =>
                .case subject (clauses ++ more.1) (more.2.getD next)
            else none := ih fun _ _ => rfl
        simp only [if_pos h₂, hnext]
        cases Item.clauses? rest with
        | none => simp
        | some more =>
          -- a later `else` counts instead of this one
          obtain ⟨clauses', _ | last⟩ := more <;> simp
      · by_cases h₃ : name = "endcase" <;> simp [h₂, h₃]

end

/-! ### Opening a block -/

variable (load : String → Except Error (List Node))

/-- The block that a built-in tag opens, if it opens one. -/
def opened? (tag : BuiltinTag) (markup : String) : Option Block :=
  match openBuiltin load tag markup with
  | .ok (.block block) => some block
  | _ => none

theorem opened?_eq_some_iff {tag : BuiltinTag} {markup : String} {block : Block} :
    opened? load tag markup = some block ↔ openBuiltin load tag markup = .ok (.block block) := by
  rw [opened?]
  split
  · next block' heq => rw [heq]; simp
  · next hne =>
    constructor
    · intro h
      cases h
    · intro h
      exact (hne block h).elim

section

variable (body : List Node) (parts : List (NamedTag × List Node)) (closing : NamedTag)

theorem blockNode?_capture (markup : String) :
    Item.blockNode? "capture" markup body parts closing.1 =
      (opened? load .capture markup).bind fun block => block.close? body closing parts := by
  have htag : BuiltinTag.ofName? "capture" = some .capture := by decide
  rw [Item.blockNode?, Item.bodyNode?, htag, opened?, openBuiltin, parseCapture]
  cases Markup.word? markup.toList with
  | none => simp
  | some target =>
    simp only [ok_map, Option.bind_some]
    have hdelimit : ∀ name markup body, (capture (String.ofList target)).delimit? name markup body =
        if name = "endcapture" then some (.ok (.done (.capture (String.ofList target) body)))
        else none := fun _ _ _ => rfl
    rw [close?_single hdelimit]
    rfl

theorem blockNode?_table (markup : String) :
    Item.blockNode? "tablerow" markup body parts closing.1 =
      (opened? load .table markup).bind fun block => block.close? body closing parts := by
  have htag : BuiltinTag.ofName? "tablerow" = some .table := by decide
  rw [Item.blockNode?, Item.bodyNode?, htag, opened?, openBuiltin]
  cases LoopHeader.parse "tablerow" markup with
  | error e => simp
  | ok header =>
    simp only [ok_bind, pure_eq_ok, Option.bind_some]
    have hdelimit : ∀ name markup body, (table header).delimit? name markup body =
        if name = "endtablerow" then some (.ok (.done (.table header body))) else none :=
      fun _ _ _ => rfl
    rw [close?_single hdelimit]
    rfl

theorem blockNode?_loop (markup : String) :
    Item.blockNode? "for" markup body parts closing.1 =
      (opened? load .loop markup).bind fun block => block.close? body closing parts := by
  have htag : BuiltinTag.ofName? "for" = some .loop := by decide
  rw [Item.blockNode?, Item.bodyNode?, htag, opened?, openBuiltin]
  cases LoopHeader.parse "for" markup with
  | error e => simp
  | ok header =>
    simp only [ok_bind, pure_eq_ok, Option.bind_some, close?_loop]
    rw [Option.map_eq_bind]
    rfl

theorem blockNode?_branch (negated : Bool) (tag : BuiltinTag) (markup : String)
    (h : tag = if negated then .negatedBranch else .branch) :
    Item.blockNode? (branchTag negated) markup body parts closing.1 =
      (opened? load tag markup).bind fun block => block.close? body closing parts := by
  have htag : BuiltinTag.ofName? (branchTag negated) = some tag := by
    subst h
    cases negated <;> decide
  have hopen : openBuiltin load tag markup =
      do return .block (.branch negated [] (← Condition.parse markup)) := by
    subst h
    cases negated <;> rfl
  rw [Item.blockNode?, Item.bodyNode?, htag, opened?, hopen]
  cases Condition.parse markup with
  | error e => subst h; cases negated <;> simp
  | ok condition =>
    simp only [ok_bind, pure_eq_ok, Option.bind_some, close?_branch]
    subst h
    cases negated <;> (rw [Option.map_eq_bind]; rfl)

theorem blockNode?_case (markup : String) :
    Item.blockNode? "case" markup body parts closing.1 =
      (opened? load .case markup).bind fun block => block.close? body closing parts := by
  have htag : BuiltinTag.ofName? "case" = some .case := by decide
  rw [Item.blockNode?, Item.bodyNode?, htag, opened?, openBuiltin, parseCase, Item.subject?]
  by_cases hempty : (Text.trim markup.toList).isEmpty
  · simp only [if_pos hempty]
    simp
  · simp only [if_neg hempty]
    cases Expression.parse markup.toList with
    | error e => simp
    | ok subject =>
      have hclose : (caseHead subject).close? body closing parts =
          if closing.1 = "endcase" then
            (Item.clauses? parts).map fun more => .case subject ([] ++ more.1) (more.2.getD [])
          else none := close?_case fun _ _ => rfl
      simp only [ok_bind, pure_eq_ok, ok_map, Option.bind_some, toOption_ok, hclose,
        List.nil_append]
      rw [Option.map_eq_bind]
      rfl

/-- A tag that is no block by the grammar opens none. -/
theorem blockNode?_leaf {name : String} {tag : BuiltinTag} (markup : String)
    (h : BuiltinTag.ofName? name = some tag)
    (hleaf : tag = .assign ∨ tag = .comment ∨ tag = .raw ∨ tag = .cycle ∨ tag = .inclusion) :
    Item.blockNode? name markup body parts closing.1 =
      (opened? load tag markup).bind fun block => block.close? body closing parts := by
  have hnone : opened? load tag markup = none := by
    rw [opened?]
    rcases hleaf with rfl | rfl | rfl | rfl | rfl
    · rw [openBuiltin]
      cases parseAssign markup <;> rfl
    · rfl
    · rfl
    · rw [openBuiltin]
      cases Cycle.parse markup <;> rfl
    · rw [openBuiltin]
      cases Inclusion.parse markup with
      | error e => rfl
      | ok header => cases hload : load header.template <;> simp [hload]
  rw [hnone, Item.blockNode?, Item.bodyNode?, h]
  rcases hleaf with rfl | rfl | rfl | rfl | rfl <;> exact ite_self none

end

/-- The rules of the grammar for a block are what delimiters do to it. -/
theorem blockNode?_eq_some_iff {name markup : String} {tag : BuiltinTag} {body : List Node}
    {parts : List (NamedTag × List Node)} {closing : NamedTag} {node : Node}
    (h : BuiltinTag.ofName? name = some tag) :
    Item.blockNode? name markup body parts closing.1 = some node ↔
      ∃ block, openBuiltin load tag markup = .ok (.block block)
        ∧ block.close? body closing parts = some node := by
  have heq : Item.blockNode? name markup body parts closing.1 =
      (opened? load tag markup).bind fun block => block.close? body closing parts := by
    have hname := BuiltinTag.mem_all_of_ofName? h
    simp only [BuiltinTag.all, List.mem_cons, Prod.mk.injEq, List.not_mem_nil, or_false] at hname
    rcases hname with ⟨rfl, rfl⟩ | ⟨rfl, rfl⟩ | ⟨rfl, rfl⟩ | ⟨rfl, rfl⟩ | ⟨rfl, rfl⟩ | ⟨rfl, rfl⟩
      | ⟨rfl, rfl⟩ | ⟨rfl, rfl⟩ | ⟨rfl, rfl⟩ | ⟨rfl, rfl⟩ | ⟨rfl, rfl⟩
    · exact blockNode?_leaf load body parts closing markup h (by simp)
    · exact blockNode?_capture load body parts closing markup
    · exact blockNode?_leaf load body parts closing markup h (by simp)
    · exact blockNode?_leaf load body parts closing markup h (by simp)
    · exact blockNode?_leaf load body parts closing markup h (by simp)
    · exact blockNode?_loop load body parts closing markup
    · exact blockNode?_branch load body parts closing false .branch markup rfl
    · exact blockNode?_branch load body parts closing true .negatedBranch markup rfl
    · exact blockNode?_case load body parts closing markup
    · exact blockNode?_leaf load body parts closing markup h (by simp)
    · exact blockNode?_table load body parts closing markup
  rw [heq, Option.bind_eq_some_iff]
  simp only [opened?_eq_some_iff]

end Block

end Liquid
