import Liquid.Proofs.Document.Verbatim
import Liquid.Template.Parser

/-!
# Steps that could be undefined

Reading a template takes parts of texts, counts down, and takes items off lists. Said with
operations that have no result where these make no sense, the readers come to the same: they always
have one.

- `part?`: a part of a text or of another list, by its bounds.
- `Text.scanBracket?`: the bracket that closes another, with a count that may not go below zero.
- `Condition.fold?`: comparisons put together from behind, with the joins between them.
- `Progress.CommentOpen`: in a comment, at least one is open; every step of reading keeps this.
- `ReadsWithin`: all of this in one statement, `readsWithin` its proof.
-/

namespace Liquid

/-! ### Parts of a list -/

section

variable {α : Type}

/-- The items from position `first` up to `last`, if these are positions of the list in this
order. -/
def part? (s : List α) (first last : Nat) : Option (List α) :=
  if first ≤ last ∧ last ≤ s.length then some ((s.take last).drop first) else none

/-- What stands between the first item and the last. -/
theorem part?_between (c d : α) (s : List α) :
    part? (c :: (s ++ [d])) 1 ((c :: (s ++ [d])).length - 1) = some s := by
  have hlength : (c :: (s ++ [d])).length - 1 = s.length + 1 := by
    simp only [List.length_cons, List.length_append, List.length_nil]
    omega
  rw [hlength, part?, if_pos]
  · rw [List.take_succ_cons, List.take_left, List.drop_succ_cons, List.drop_zero]
  · simp only [List.length_cons, List.length_append, List.length_nil]
    omega

theorem part?_behind (front behind : List α) :
    part? (front ++ behind) front.length (front ++ behind).length = some behind := by
  rw [part?, if_pos]
  · rw [List.take_length, List.drop_left]
  · rw [List.length_append]
    omega

theorem part?_front (c : α) (middle behind : List α) :
    part? (c :: (middle ++ behind)) 1 (middle.length + 1) = some middle := by
  rw [part?, if_pos]
  · rw [List.take_succ_cons, List.take_left, List.drop_succ_cons, List.drop_zero]
  · simp only [List.length_cons, List.length_append]
    omega

/-- As many items as are asked for, from a position on. -/
theorem part?_of_le {s : List α} {first count : Nat} (h : first + count ≤ s.length) :
    part? s first (first + count) = some ((s.drop first).take count) := by
  rw [part?, if_pos ⟨Nat.le_add_right first count, h⟩, List.drop_take, Nat.add_sub_cancel_left]

end

namespace Text

/-! ### Counting brackets -/

/-- The brackets that are open behind `c`. Where none is open, a `]` outside quotes has no meaning.
-/
def bracketsAfter? (quote : Option Char) (depth : Nat) (c : Char) : Option Nat :=
  if quote.isSome then some depth
  else if c = '[' then some (depth + 1)
  else if c = ']' then (if depth = 0 then none else some (depth - 1))
  else some depth

/-- The text up to the `]` that brings the count of open brackets to zero, and the text behind it;
inside is nothing if there is no such `]`. There is no result at all where the count would go below
zero. -/
def scanBracket? (quote : Option Char) (depth : Nat) :
    List Char → Option (Option (List Char × List Char))
  | [] => some none
  | c :: rest =>
    match bracketsAfter? quote depth c with
    | none => none
    | some depth' =>
      if quote = none ∧ c = ']' ∧ depth' = 0 then some (some ([], rest))
      else (scanBracket? (quoteAfter quote c) depth' rest).map fun cut? =>
        cut?.map fun cut => (c :: cut.1, cut.2)

/-- Behind a character the last open bracket is closed, or there is still one open. -/
theorem bracketsAfter?_cases (quote : Option Char) {depth : Nat} (hdepth : 0 < depth) (c : Char) :
    (bracketsAfter? quote depth c = some 0 ∧ quote = none ∧ c = ']' ∧ depth ≤ 1)
      ∨ ∃ depth', bracketsAfter? quote depth c = some depth' ∧ 0 < depth'
        ∧ ¬ (quote = none ∧ c = ']' ∧ depth ≤ 1)
        ∧ depth' = if quote.isSome then depth
            else if c = '[' then depth + 1 else if c = ']' then depth - 1 else depth := by
  unfold bracketsAfter?
  cases quote with
  | some q => exact .inr ⟨depth, rfl, hdepth, by simp, rfl⟩
  | none =>
    by_cases hopen : c = '['
    · subst hopen
      exact .inr ⟨depth + 1, rfl, Nat.succ_pos depth, by simp, rfl⟩
    · by_cases hclose : c = ']'
      · subst hclose
        rcases Nat.lt_or_ge 1 depth with hmany | hlast
        · refine .inr ⟨depth - 1, ?_, by omega, by simp; omega, rfl⟩
          simp [Nat.ne_of_gt hdepth]
        · obtain rfl : depth = 1 := by omega
          exact .inl ⟨rfl, rfl, rfl, Nat.le_refl 1⟩
      · refine .inr ⟨depth, ?_, hdepth, by simp [hclose], ?_⟩
        · simp [hopen, hclose]
        · simp [hopen, hclose]

/-- With a bracket open, the count never goes below zero. -/
theorem scanBracket?_eq {quote : Option Char} {depth : Nat} (hdepth : 0 < depth) (s : List Char) :
    scanBracket? quote depth s = some (cutBracketFrom? quote depth s) := by
  induction s generalizing quote depth with
  | nil => rfl
  | cons c rest ih =>
    have hend : (quote.isNone && c == ']' && decide (depth ≤ 1)) = true ↔
        quote = none ∧ c = ']' ∧ depth ≤ 1 := by
      simp only [Bool.and_eq_true, Option.isNone_iff_eq_none, beq_iff_eq, decide_eq_true_eq,
        and_assoc]
    rw [scanBracket?, cutBracketFrom?]
    rcases bracketsAfter?_cases quote hdepth c with
      ⟨hafter, hquote, hc, hlast⟩ | ⟨depth', hafter, hpos, hgo, heq⟩
    · rw [hafter, if_pos (hend.2 ⟨hquote, hc, hlast⟩)]
      exact if_pos ⟨hquote, hc, rfl⟩
    · rw [hafter, if_neg (mt hend.1 hgo)]
      simp only [← heq, ih hpos]
      exact if_neg fun h => Nat.ne_of_gt hpos h.2.2

/-- The scan begins at the bracket that is to be closed. -/
theorem scanBracket?_cutBracket? (rest : List Char) :
    scanBracket? none 0 ('[' :: rest) =
      some ((cutBracket? rest).map fun cut => ('[' :: cut.1, cut.2)) := by
  have hafter : bracketsAfter? none 0 '[' = some 1 := rfl
  rw [scanBracket?, hafter]
  have hquote : quoteAfter none '[' = none := rfl
  simp only [hquote, scanBracket?_eq Nat.one_pos]
  rfl

end Text

/-! ### Comments -/

namespace Progress

variable {d : Dialect} {p p' : Progress}

/-- In a comment, at least one comment is open. -/
def CommentOpen (p : Progress) : Prop := ∀ depth, p.verbatim = some (.comment depth) → 0 < depth

theorem CommentOpen.of_none (h : p.verbatim = none) : p.CommentOpen := by
  intro depth hdepth
  rw [h] at hdepth
  cases hdepth

theorem CommentOpen.start (hp : p.CommentOpen) (start : Block.Start) :
    (p.start start).CommentOpen := by
  cases start with
  | node | block => exact hp
  | raw =>
    intro depth hdepth
    cases hdepth
  | comment =>
    intro depth hdepth
    cases hdepth
    exact Nat.one_pos

theorem CommentOpen.openTag {name rest markup : String} (hp : p.CommentOpen)
    (h : p.openTag d name rest markup = .ok p') : p'.CommentOpen := by
  unfold Progress.openTag at h
  split at h
  · obtain ⟨start, -, rfl⟩ := map_eq_ok_iff.1 h
    exact hp.start start
  split at h
  · obtain ⟨start, -, rfl⟩ := map_eq_ok_iff.1 h
    exact hp.start start
  · cases h

theorem CommentOpen.readTag {name rest markup : String} (hp : p.CommentOpen)
    (h : p.readTag d name rest markup = .ok p') : p'.CommentOpen := by
  unfold Progress.readTag at h
  split at h
  · exact hp.openTag h
  split at h
  · exact hp.openTag h
  · obtain ⟨step, -, h⟩ := bind_eq_ok_iff.1 h
    cases step with
    | next block =>
      cases h
      exact hp
    | done node =>
      cases h
      exact hp

theorem CommentOpen.readVerbatim {v : Verbatim} (hp : p.CommentOpen) (hv : p.verbatim = some v)
    (t : Token) : (p.readVerbatim t v).CommentOpen := by
  cases v with
  | raw text =>
    rw [Progress.readVerbatim]
    split
    · exact .of_none rfl
    · intro depth hdepth
      cases hdepth
  | comment open' =>
    have hopen := hp open' hv
    rw [Progress.readVerbatim]
    split
    · intro depth hdepth
      cases hdepth
      exact Nat.succ_pos open'
    split
    · split
      · exact .of_none rfl
      · -- more than one comment is open here, and so one less is still one
        intro depth hdepth
        cases hdepth
        omega
    · exact hp

theorem CommentOpen.read {t : Token} {tokens : List Token} (hp : p.CommentOpen)
    (h : p.read d t tokens = .ok p') : p'.CommentOpen := by
  unfold Progress.read at h
  split at h
  · next hv =>
    cases h
    exact hp.readVerbatim hv t
  · cases t with
    | literal text =>
      simp only at h
      split at h
      · cases h
      · cases h
        exact hp
    | output markup =>
      obtain ⟨pipeline, -, heq⟩ := bind_eq_ok_iff.1 h
      cases heq
      exact hp
    | tag markup =>
      simp only at h
      split at h
      · cases h
      · exact hp.readTag h

theorem CommentOpen.readAll {tokens : List Token} (hp : p.CommentOpen)
    (h : Progress.readAll d p tokens = .ok p') : p'.CommentOpen := by
  induction tokens generalizing p with
  | nil =>
    cases h
    exact hp
  | cons t rest ih =>
    obtain ⟨next, hnext, h⟩ := bind_eq_ok_iff.1 h
    exact ih (hp.read hnext) h

end Progress

/-! ### Conditions -/

namespace Condition

/-- Puts comparisons in front of a condition, the last of them first, and in front of each takes the
next join. There is no result if no join is left. -/
def foldBack? : (comparisons : List Comparison) → (joins : List Join) → Condition → Option Condition
  | [], _, condition => some condition
  | comparison :: comparisons, word :: joins, condition =>
    foldBack? comparisons joins (.join comparison word condition)
  | _ :: _, [], _ => none

/-- The condition of comparisons with the joins between them, put together from behind. -/
def fold? (comparisons : List Comparison) (joins : List Join) : Option Condition :=
  match comparisons.reverse with
  | [] => none
  | comparison :: others => foldBack? others joins.reverse (.last comparison)

theorem foldBack?_append {before behind : List Comparison} {words words' : List Join}
    {condition : Condition} (h : before.length = words.length) :
    foldBack? (before ++ behind) (words ++ words') condition =
      (foldBack? before words condition).bind fun inner => foldBack? behind words' inner := by
  induction before generalizing words condition with
  | nil =>
    cases words with
    | nil => rfl
    | cons => cases h
  | cons comparison before ih =>
    cases words with
    | nil => cases h
    | cons word words => exact ih (Nat.succ.inj h)

/-- A comparison in front of others, and the join between them. -/
theorem fold?_cons {first : Comparison} {others : List Comparison} {word : Join} {words : List Join}
    {condition : Condition} (hlength : others.length = words.length + 1)
    (h : fold? others words = some condition) :
    fold? (first :: others) (word :: words) = some (.join first word condition) := by
  unfold fold? at h ⊢
  rw [List.reverse_cons, List.reverse_cons]
  cases hreverse : others.reverse with
  | nil =>
    rw [hreverse] at h
    cases h
  | cons comparison behind =>
    rw [hreverse] at h
    have hbehind : behind.length = words.reverse.length := by
      have hlength' := congrArg List.length hreverse
      rw [List.length_reverse, List.length_cons] at hlength'
      rw [List.length_reverse]
      omega
    rw [List.cons_append]
    simp only at h ⊢
    rw [foldBack?_append hbehind, h]
    rfl

/-- When all comparisons of a condition have been read, the joins between them are enough to put
them together, and this gives the condition. -/
theorem exists_fold?_of_mapM {markup : String} {first : List (List Char)}
    {others : List (Join × List (List Char))} {comparisons : List Comparison}
    (h : (first :: others.map Prod.snd).mapM (Comparison.parse markup) = .ok comparisons) :
    comparisons.length = others.length + 1
      ∧ ∃ condition, fold? comparisons (others.map Prod.fst) = some condition
        ∧ parseGroups markup first others = .ok condition := by
  obtain ⟨comparison, rest, hfirst, hrest, rfl⟩ := mapM_cons_eq_ok_iff.1 h
  clear h
  induction others generalizing first comparison rest with
  | nil =>
    cases hrest
    refine ⟨rfl, .last comparison, rfl, ?_⟩
    rw [parseGroups, hfirst]
    rfl
  | cons group others ih =>
    obtain ⟨next, more, hnext, hmore, rfl⟩ := mapM_cons_eq_ok_iff.1 hrest
    obtain ⟨hlength, condition, hfold, hparse⟩ := ih next more hnext hmore
    refine ⟨congrArg Nat.succ hlength, .join comparison group.1 condition, ?_, ?_⟩
    · exact fold?_cons (by rw [hlength, List.length_map]) hfold
    · rw [parseGroups, hfirst, ok_bind, hparse]
      rfl

end Condition

/-! ### All of them -/

open Text

/-- Where a reader takes a part of a text, counts down or takes items off a list, it can. -/
structure ReadsWithin : Prop where
  /-- The quotes of a quoted text are its first and its last character. -/
  quoted : ∀ {s text}, Expression.quoted? s = some text → part? s 1 (s.length - 1) = some text
  /-- So are the brackets of a list. -/
  brackets : ∀ {s inner}, Expression.arrayInner? s = some inner →
    ∃ between, part? s 1 (s.length - 1) = some between ∧ inner = trim between
  /-- So are the quotes of the name in an `include`. -/
  templateName : ∀ {s quoted behind}, Markup.takeQuoted? s = some (quoted, behind) →
    part? quoted 1 (quoted.length - 1) = some quoted.tail.dropLast
  /-- The count of brackets does not go below zero on the way to the one that closes an index. -/
  bracketCount : ∀ rest, scanBracket? none 0 ('[' :: rest) =
    some ((cutBracket? rest).map fun cut => ('[' :: cut.1, cut.2))
  /-- The index stands between the brackets, and what follows it behind them. -/
  index : ∀ {rest cut}, cutBracket? rest = some cut →
    part? ('[' :: rest) 1 (cut.1.length + 1) = some cut.1
      ∧ part? ('[' :: rest) (cut.1.length + 2) (rest.length + 1) = some cut.2
  /-- Wherever reading stands in a comment, at least one comment is open. -/
  commentCount : ∀ {d : Dialect} {tokens : List Token} {p : Progress} {depth},
    Progress.readAll d {} tokens = .ok p → p.verbatim = some (.comment depth) → 0 < depth
  /-- The joins of a condition are enough for its comparisons. -/
  joins : ∀ {markup comparisons},
    let groups := Condition.groups (fragments markup.toList)
    (groups.1 :: groups.2.map Prod.snd).mapM (Comparison.parse markup) = .ok comparisons →
      ∃ condition, Condition.fold? comparisons (groups.2.map Prod.fst) = some condition
        ∧ Condition.parse markup = .ok condition

theorem part?_quoted? {s text : List Char} (h : Expression.quoted? s = some text) :
    part? s 1 (s.length - 1) = some text := by
  unfold Expression.quoted? at h
  split at h
  · cases h
  · next q rest =>
    split at h
    · next hquotes =>
      cases h
      rw [Bool.and_eq_true, beq_iff_eq] at hquotes
      obtain ⟨front, rfl⟩ := List.getLast?_eq_some_iff.1 hquotes.2
      rw [List.dropLast_concat]
      exact part?_between q q front
    · cases h

theorem part?_arrayInner? {s inner : List Char} (h : Expression.arrayInner? s = some inner) :
    ∃ between, part? s 1 (s.length - 1) = some between ∧ inner = trim between := by
  unfold Expression.arrayInner? at h
  split at h
  · next rest =>
    split at h
    · next hlast =>
      cases h
      obtain ⟨front, rfl⟩ := List.getLast?_eq_some_iff.1 hlast
      rw [List.dropLast_concat]
      exact ⟨front, part?_between '[' ']' front, rfl⟩
    · cases h
  · cases h

theorem part?_takeQuoted? {s quoted behind : List Char}
    (h : Markup.takeQuoted? s = some (quoted, behind)) :
    part? quoted 1 (quoted.length - 1) = some quoted.tail.dropLast := by
  unfold Markup.takeQuoted? at h
  split at h
  · cases h
  · next q rest =>
    split at h
    · cases h
    split at h
    · cases h
    · cases h
      rw [List.cons_append, List.tail_cons, List.dropLast_concat]
      exact part?_between q q _

theorem readsWithin : ReadsWithin where
  quoted := part?_quoted?
  brackets := part?_arrayInner?
  templateName := part?_takeQuoted?
  bracketCount := scanBracket?_cutBracket?
  index {rest cut} h := by
    rw [cutBracketFrom?_eq_some h]
    refine ⟨part?_front '[' cut.1 (']' :: cut.2), ?_⟩
    have hbehind := part?_behind ('[' :: (cut.1 ++ [']'])) cut.2
    simp only [List.length_cons, List.length_append, List.length_nil, List.cons_append,
      List.append_assoc, List.nil_append] at hbehind ⊢
    exact hbehind
  commentCount h := (Progress.CommentOpen.of_none rfl).readAll h _
  joins h := (Condition.exists_fold?_of_mapM h).2

end Liquid
