import Liquid.Proofs.Condition.Chain
import Liquid.Proofs.Expression.Spelling

/-!
# Conditions as they are written

A condition together with how it is written: operands whose blanks are quoted, operators, and joins,
with single spaces between them. Reading the text gives the condition back.

- `Operand.Spelling`, `Operator.Spelling`, `Comparison.Spelling`, `Condition.Spelling`: spellings.
  They hold the proofs that they can be written down.
- `Operand.Spelling.ofExpression`, `Operand.Spelling.quoted`: every expression that has its blanks
  in quotes is an operand, and so is all quoted text.
- `Condition.Spelling.fragments_text`, `Condition.Spelling.groups_parts`: the text is cut into the
  parts that it was put together from.
- `Condition.parse_chain`: a written chain is read, and its comparisons are joined from the right;
  the markup of every condition is cut into its comparisons by the joins in it.
-/

namespace Liquid

open Text

/-! ### Operands as they are written -/

/-- An operand as it is written between blanks. -/
structure Operand.Spelling where
  /-- Its text. -/
  text : List Char
  /-- What it stands for. -/
  operand : Operand
  /-- Its quotes are closed, and its blanks are quoted. -/
  unbroken : Unbroken text
  /-- It is not one of the words that join comparisons. -/
  not_join : isJoin text = false
  /-- It can be read. -/
  parse_text : Operand.parse text = .ok operand

/-- What an expression stands for as an operand: the words `empty` and `blank` are no paths here. -/
def Operand.ofSpelling (e : Expression.Spelling) : Operand :=
  match String.ofList e.text with
  | "empty" => .empty
  | "blank" => .blank
  | _ => .expression e.expression

theorem Operand.parse_spelling (e : Expression.Spelling) :
    Operand.parse e.text = .ok (Operand.ofSpelling e) := by
  rw [Operand.parse]
  split
  · next h =>
    rw [ofSpelling, h]
    rfl
  · next h =>
    rw [ofSpelling, h]
    rfl
  · next hempty hblank =>
    rw [e.parse_text, ofSpelling]
    split
    · next h => exact (hempty h).elim
    · next h => exact (hblank h).elim
    · rfl

/-- Every expression without blanks outside its quotes is an operand, but for the words that join
comparisons. -/
def Operand.Spelling.ofExpression (e : Expression.Spelling)
    (blanks : blanksQuoted none e.text = true) (not_join : isJoin e.text = false) :
    Operand.Spelling where
  text := e.text
  operand := Operand.ofSpelling e
  unbroken := ⟨e.tight.ne_nil, blanks, e.balanced.quoteBehind⟩
  not_join := not_join
  parse_text := Operand.parse_spelling e

theorem isJoin_quoted {q : Char} (hq : isQuote q = true) (s : List Char) :
    isJoin (q :: s) = false := by
  rw [isJoin_eq_false_iff, Option.eq_none_iff_forall_ne_some]
  intro word h
  have htext := Join.text_of_ofFragment? h
  cases word with
  | and =>
    cases htext
    cases hq
  | or =>
    cases htext
    cases hq

/-- Quoted text is an operand, whatever words, blanks and operators stand in it. -/
def Operand.Spelling.quoted (q : Char) (s : List Char) (isQuote : isQuote q = true)
    (closed : q ∉ s) : Operand.Spelling :=
  .ofExpression (.string q s isQuote closed) (Unbroken.quoted isQuote closed).blanks
    (isJoin_quoted isQuote (s ++ [q]))

/-! ### Comparisons as they are written -/

/-- How the operators are written. -/
def Operator.symbols : List String := ["==", "!=", "<>", "<", ">", "<=", ">=", "contains"]

theorem Operator.mem_symbols {s : String} {op : Operator} (h : ofText? s = some op) :
    s ∈ symbols := by
  unfold ofText? at h
  split at h
  all_goals first | decide | cases h

/-- An operator with one of the ways to write it. -/
structure Operator.Spelling where
  /-- Its text. -/
  text : List Char
  /-- The operator. -/
  operator : Operator
  /-- It is written so. -/
  ofText?_text : Operator.ofText? (String.ofList text) = some operator

/-- A comparison as it is written: one operand, or two with an operator between them. -/
structure Comparison.Spelling where
  /-- The first operand. -/
  left : Operand.Spelling
  /-- The operator and the second operand. -/
  right : Option (Operator.Spelling × Operand.Spelling)

namespace Operator.Spelling

theorem unbroken (op : Operator.Spelling) : Unbroken op.text ∧ isJoin op.text = false := by
  have hsymbols : ∀ s ∈ symbols, Unbroken s.toList ∧ isJoin s.toList = false := by decide
  have hop := hsymbols _ (mem_symbols op.ofText?_text)
  rwa [String.toList_ofList] at hop

end Operator.Spelling

namespace Comparison.Spelling

/-- The fragments of a comparison. -/
def parts (s : Comparison.Spelling) : List (List Char) :=
  match s.right with
  | none => [s.left.text]
  | some (op, right) => [s.left.text, op.text, right.text]

/-- A comparison as it is written, with single spaces. -/
def text (s : Comparison.Spelling) : List Char := [' '].intercalate s.parts

/-- What it stands for. -/
def comparison (s : Comparison.Spelling) : Comparison :=
  ⟨s.left.operand, s.right.map fun right => (right.1.operator, right.2.operand)⟩

theorem parts_spec (s : Comparison.Spelling) :
    ∀ fragment ∈ s.parts, Unbroken fragment ∧ isJoin fragment = false := by
  obtain ⟨left, right⟩ := s
  intro fragment h
  cases right with
  | none =>
    rw [parts, List.mem_singleton] at h
    rw [h]
    exact ⟨left.unbroken, left.not_join⟩
  | some right =>
    rw [parts, List.mem_cons, List.mem_cons, List.mem_singleton] at h
    rcases h with rfl | rfl | rfl
    · exact ⟨left.unbroken, left.not_join⟩
    · exact right.1.unbroken
    · exact ⟨right.2.unbroken, right.2.not_join⟩

theorem parse_parts (s : Comparison.Spelling) (markup : String) :
    Comparison.parse markup s.parts = .ok s.comparison := by
  obtain ⟨left, right⟩ := s
  cases right with
  | none =>
    rw [parts, Comparison.parse, left.parse_text]
    rfl
  | some right =>
    rw [parts, Comparison.parse, right.1.ofText?_text]
    dsimp only
    rw [left.parse_text, right.2.parse_text]
    rfl

end Comparison.Spelling

/-! ### Chains as they are written -/

/-- Comparisons with joins between them, as they are written. -/
structure Condition.Spelling where
  /-- The first comparison. -/
  first : Comparison.Spelling
  /-- The joins, each with the comparison behind it. -/
  rest : List (Join × Comparison.Spelling)

namespace Condition.Spelling

/-- The fragments of a chain. -/
def parts (s : Condition.Spelling) : List (List Char) :=
  s.first.parts ++ s.rest.flatMap fun next => next.1.text :: next.2.parts

/-- A chain as it is written, with single spaces. -/
def text (s : Condition.Spelling) : List Char := [' '].intercalate s.parts

/-- What it stands for. -/
def condition (s : Condition.Spelling) : Condition :=
  ofChain s.first.comparison (s.rest.map fun next => (next.1, next.2.comparison))

theorem unbroken_of_mem (s : Condition.Spelling) : ∀ fragment ∈ s.parts, Unbroken fragment := by
  intro fragment h
  rcases List.mem_append.1 h with h | h
  · exact (s.first.parts_spec fragment h).1
  · obtain ⟨next, -, h⟩ := List.mem_flatMap.1 h
    rcases List.mem_cons.1 h with rfl | h
    · exact next.1.unbroken
    · exact (next.2.parts_spec fragment h).1

theorem fragments_text (s : Condition.Spelling) : fragments s.text = s.parts :=
  fragments_intercalate s.unbroken_of_mem

theorem groups_parts (s : Condition.Spelling) :
    groups s.parts = (s.first.parts, s.rest.map fun next => (next.1, next.2.parts)) := by
  have hgroups : ∀ (part : Comparison.Spelling) (rest : List (Join × Comparison.Spelling)),
      groups (part.parts ++ rest.flatMap fun next => next.1.text :: next.2.parts)
        = (part.parts, rest.map fun next => (next.1, next.2.parts)) := by
    intro part rest
    induction rest generalizing part with
    | nil =>
      rw [groups_append fun f hf => (part.parts_spec f hf).2]
      exact congrArg (·, []) (List.append_nil part.parts)
    | cons next rest ih =>
      rw [groups_append fun f hf => (part.parts_spec f hf).2, List.flatMap_cons, List.cons_append,
        groups_join, ih next.2, List.append_nil]
      rfl
  exact hgroups s.first s.rest

theorem parse_text (s : Condition.Spelling) :
    Condition.parse (String.ofList s.text) = .ok s.condition := by
  rw [Condition.parse, String.toList_ofList, s.fragments_text, s.groups_parts]
  refine parseGroups_eq_ok_iff.2 ⟨_, _, rfl, s.first.parse_parts _, ?_⟩
  rw [List.forall₂_map_left_iff, List.forall₂_map_right_iff, List.forall₂_same]
  exact fun next _ => ⟨rfl, next.2.parse_parts _⟩

end Condition.Spelling

namespace Comparison.Spelling

/-- A comparison by itself is a chain. -/
theorem parse_text (s : Comparison.Spelling) :
    Condition.parse (String.ofList s.text) = .ok (.last s.comparison) := by
  have htext : Condition.Spelling.text ⟨s, []⟩ = s.text :=
    congrArg [' '].intercalate (List.append_nil s.parts)
  rw [← htext, Condition.Spelling.parse_text]
  rfl

end Comparison.Spelling

namespace Condition

/-- Conditions associate to the right. The text of comparisons with joins between them is read,
each comparison by itself is read, too, and the condition says of every context what the
comparisons say of it by themselves, joined from the right. And of every markup that is read, the
words `and` and `or` outside quotes cut the fragments into groups of one or three, one for each
comparison of the condition. -/
theorem parse_chain :
    (∀ chain : Condition.Spelling,
      ∃ condition, parse (String.ofList chain.text) = .ok condition
        ∧ (∀ part ∈ chain.first :: chain.rest.map Prod.snd,
            parse (String.ofList part.text) = .ok (.last part.comparison))
        ∧ ∀ c, condition.evaluate c
            = joinRight ((last chain.first.comparison).evaluate c)
                (chain.rest.map fun next => (next.1, (last next.2.comparison).evaluate c)))
    ∧ ∀ (markup : String) (condition : Condition), parse markup = .ok condition →
      condition.comparisons.length = (fragments markup.toList).countP isJoin + 1
        ∧ ∃ (first : List (List Char)) (others : List (Join × List (List Char))),
          fragments markup.toList
              = first ++ others.flatMap (fun next => next.1.text :: next.2)
            ∧ List.Forall₂ (fun group comparison =>
                (∀ fragment ∈ group, isJoin fragment = false)
                  ∧ (group.length = 1 ∨ group.length = 3)
                  ∧ Comparison.parse markup group = .ok comparison)
              (first :: others.map Prod.snd) condition.comparisons := by
  constructor
  · intro chain
    refine ⟨chain.condition, chain.parse_text, fun part _ => part.parse_text, fun c => ?_⟩
    rw [Spelling.condition, evaluate_ofChain, List.map_map]
    rfl
  · intro markup condition h
    have hread := forall₂_comparisons h
    constructor
    · rw [← hread.length_eq, countP_isJoin, List.length_cons, List.length_map]
    · refine ⟨_, _, (groups_eq _).symm, (List.forall₂_and_left _ _).2 ⟨isJoin_of_mem_groups _, ?_⟩⟩
      exact hread.imp fun _ _ hgroup => ⟨length_of_parse_comparison hgroup, hgroup⟩

/-- Two joins of both kinds, with the words of joins in quoted operands. -/
theorem parse_chain_mixed :
    ∃ first second third condition,
      parse "a == 'x and y'" = .ok (last first) ∧ parse "b" = .ok (last second)
        ∧ parse "c contains 'or'" = .ok (last third)
        ∧ parse "a == 'x and y' or b and c contains 'or'" = .ok condition
        ∧ (∀ c, condition.evaluate c
            = (first.evaluate c || (second.evaluate c && third.evaluate c)))
        ∧ condition.comparisons.length = 3 := by
  let a : Expression.Root := ⟨⟨['a'], by decide, List.all_eq_true.1 rfl⟩, by decide⟩
  let b : Expression.Root := ⟨⟨['b'], by decide, List.all_eq_true.1 rfl⟩, by decide⟩
  let d : Expression.Root := ⟨⟨['c'], by decide, List.all_eq_true.1 rfl⟩, by decide⟩
  let first : Comparison.Spelling := {
    left := .ofExpression (.name a (show "a" ∉ Expression.keywords by decide)) rfl rfl
    right := some (⟨"==".toList, .equal, rfl⟩,
      .quoted '\'' "x and y".toList rfl (by decide)) }
  let second : Comparison.Spelling := {
    left := .ofExpression (.name b (show "b" ∉ Expression.keywords by decide)) rfl rfl
    right := none }
  let third : Comparison.Spelling := {
    left := .ofExpression (.name d (show "c" ∉ Expression.keywords by decide)) rfl rfl
    right := some (⟨"contains".toList, .contains, rfl⟩,
      .quoted '\'' "or".toList rfl (by decide)) }
  let chain : Condition.Spelling := ⟨first, [(.or, second), (.and, third)]⟩
  have htext : String.ofList chain.text = "a == 'x and y' or b and c contains 'or'" := by
    decide +kernel
  have hfirst : String.ofList first.text = "a == 'x and y'" := by decide +kernel
  have hsecond : String.ofList second.text = "b" := by decide +kernel
  have hthird : String.ofList third.text = "c contains 'or'" := by decide +kernel
  obtain ⟨condition, hparse, hparts, hevaluate⟩ := parse_chain.1 chain
  have hcount := (parse_chain.2 _ condition hparse).1
  rw [String.toList_ofList, chain.fragments_text] at hcount
  rw [htext] at hparse
  refine ⟨first.comparison, second.comparison, third.comparison, condition, ?_, ?_, ?_, hparse,
    hevaluate, hcount⟩
  · rw [← hfirst]
    exact hparts first (.head _)
  · rw [← hsecond]
    exact hparts second (.tail _ (.head _))
  · rw [← hthird]
    exact hparts third (.tail _ (.tail _ (.head _)))

end Condition

end Liquid
