import Liquid.Proofs.Text.Fragments

/-!
# Cuts outside quotes

Markup is cut at separators or at blanks, where these stand outside quotes. Quotes and brackets need
not be closed: what is open at the end hides all that follows.

- `nestingBehind`: where a scan over quotes and brackets ends.
- `undivided`, `splitFrom_of_undivided`: text in which no separator divides is taken as a whole.
- `undivided_of_splitFrom`: so are the pieces of a split. The first one is scanned from where the
  split begins, and the others from outside quotes and brackets.
- `intercalate_splitFrom`, `splitFrom_append_cons`: a split loses nothing, and may be made in two
  steps.
- `withoutBlanks`, `flatten_go`, `blanksQuoted_of_mem_go`, `fragments_go_append_cons`: the same of
  fragments.
- `cuts_outside_quotes`: both cuts together.
-/

namespace Liquid.Text

/-! ### Splits -/

/-- Where a scan stands behind the text, when it stood at `n` in front of it. -/
def nestingBehind (n : Nesting) (s : List Char) : Nesting := s.foldl Nesting.step n

/-- No character of the text divides it, when the scan stands at `n` in front of it. -/
def undivided (sep : Char) (n : Nesting) : List Char → Bool
  | [] => true
  | c :: rest => !n.divides sep c && undivided sep (n.step c) rest

section Split

variable {sep : Char} {n : Nesting} {s : List Char}

/-- A text is divided outside quotes and brackets only, at separators that are none of these. -/
theorem Nesting.divides_iff {c : Char} :
    n.divides sep c = true ↔ n = {} ∧ c = sep ∧ isMark c = false := by
  obtain ⟨quote, depth⟩ := n
  have hmark : (!(isQuote c || c == '[' || c == '(' || c == ']' || c == ')')) = !isMark c := rfl
  simp only [Nesting.divides, hmark, Bool.and_eq_true, Option.isNone_iff_eq_none, beq_iff_eq,
    Bool.not_eq_true', Nesting.mk.injEq, and_assoc]

/-- A character that is neither quote nor bracket leaves the scan outside of both. -/
theorem Nesting.step_of_not_isMark {c : Char} (hc : isMark c = false) :
    Nesting.step {} c = {} := by
  obtain ⟨hquote, hsquare, hround, hsquare', hround'⟩ := isMark_eq_false_iff.1 hc
  simp [Nesting.step, quoteAfter, hquote, hsquare, hround, hsquare', hround']

theorem consFirst_append (c : Char) {pieces : List (List Char)} (h : pieces ≠ [])
    (others : List (List Char)) :
    consFirst c (pieces ++ others) = consFirst c pieces ++ others := by
  cases pieces with
  | nil => exact absurd rfl h
  | cons piece pieces => rfl

theorem intercalate_consFirst (gap : List Char) (c : Char) {pieces : List (List Char)}
    (h : pieces ≠ []) : gap.intercalate (consFirst c pieces) = c :: gap.intercalate pieces := by
  cases pieces with
  | nil => exact absurd rfl h
  | cons piece pieces =>
    cases pieces with
    | nil => rw [consFirst, List.intercalate_singleton, List.intercalate_singleton]
    | cons next others =>
      rw [consFirst, List.intercalate_cons_cons, List.intercalate_cons_cons]
      rfl

/-- The pieces with the separator between them are the text. -/
theorem intercalate_splitFrom (sep : Char) (n : Nesting) (s : List Char) :
    [sep].intercalate (splitFrom sep n s) = s := by
  induction s generalizing n with
  | nil => rw [splitFrom, List.intercalate_singleton]
  | cons c rest ih =>
    rw [splitFrom]
    split
    · next hdivides =>
      obtain ⟨-, rfl, -⟩ := Nesting.divides_iff.1 hdivides
      rw [List.intercalate_cons_of_ne_nil (splitFrom_ne_nil c n rest), ih]
      rfl
    · rw [intercalate_consFirst _ _ (splitFrom_ne_nil sep _ rest), ih]

/-- Text that nothing divides is one piece. -/
theorem splitFrom_of_undivided (h : undivided sep n s = true) : splitFrom sep n s = [s] := by
  induction s generalizing n with
  | nil => rfl
  | cons c rest ih =>
    rw [undivided, Bool.and_eq_true, Bool.not_eq_true'] at h
    rw [splitFrom, h.1, ih h.2]
    rfl

/-- No piece is divided any further. The first one begins where the split does; the others begin
behind a separator, which stands outside quotes and brackets. -/
theorem undivided_of_splitFrom (sep : Char) (n : Nesting) (s : List Char) :
    ∃ first others, splitFrom sep n s = first :: others ∧ undivided sep n first = true ∧
      ∀ piece ∈ others, undivided sep {} piece = true := by
  induction s generalizing n with
  | nil => exact ⟨[], [], rfl, rfl, by simp⟩
  | cons c rest ih =>
    rw [splitFrom]
    split
    · next hdivides =>
      obtain ⟨rfl, -, -⟩ := Nesting.divides_iff.1 hdivides
      obtain ⟨first, others, hsplit, hfirst, hothers⟩ := ih {}
      refine ⟨[], _, rfl, rfl, ?_⟩
      rw [hsplit]
      exact List.forall_mem_cons.2 ⟨hfirst, hothers⟩
    · next hdivides =>
      obtain ⟨first, others, hsplit, hfirst, hothers⟩ := ih (n.step c)
      refine ⟨c :: first, others, by rw [hsplit]; rfl, ?_, hothers⟩
      rw [undivided, hfirst, Bool.eq_false_iff.2 hdivides]
      rfl

theorem splitUnquoted_of_mem {piece : List Char} (h : piece ∈ splitUnquoted sep s) :
    splitUnquoted sep piece = [piece] := by
  obtain ⟨first, others, hsplit, hfirst, hothers⟩ := undivided_of_splitFrom sep {} s
  rw [splitUnquoted, hsplit] at h
  rcases List.mem_cons.1 h with rfl | h
  · exact splitFrom_of_undivided hfirst
  · exact splitFrom_of_undivided (hothers piece h)

/-- Where the scan comes to a separator outside quotes and brackets, the text behind it is split as
if nothing stood in front. -/
theorem splitFrom_append_cons (hsep : isMark sep = false) (h : nestingBehind n s = {})
    (t : List Char) :
    splitFrom sep n (s ++ sep :: t) = splitFrom sep n s ++ splitFrom sep {} t := by
  induction s generalizing n with
  | nil =>
    obtain rfl : n = {} := h
    exact splitUnquoted_cons hsep t
  | cons c rest ih =>
    rw [List.cons_append, splitFrom, splitFrom]
    split
    · next hdivides =>
      -- the separator leaves the scan where it is
      obtain ⟨rfl, -, hmark⟩ := Nesting.divides_iff.1 hdivides
      rw [nestingBehind, List.foldl_cons, Nesting.step_of_not_isMark hmark] at h
      rw [ih h, List.cons_append]
    · rw [ih h, consFirst_append c (splitFrom_ne_nil sep _ rest)]

end Split

/-! ### Fragments -/

/-- The text without its blanks outside quotes, when `quote` stands open in front of it. -/
def withoutBlanks (quote : Option Char) : List Char → List Char
  | [] => []
  | c :: rest =>
    if quote.isNone && isBlank c then withoutBlanks quote rest
    else c :: withoutBlanks (quoteAfter quote c) rest

section Fragments

variable {quote : Option Char} {run s fragment : List Char}

theorem flatten_close (run : List Char) : (fragments.close run).flatten = run.reverse := by
  cases run with
  | nil => rfl
  | cons c run => exact List.append_nil _

theorem mem_close_iff : fragment ∈ fragments.close run ↔ run ≠ [] ∧ fragment = run.reverse := by
  cases run with
  | nil => simp [fragments.close]
  | cons c run => simp [fragments.close]

theorem blanksQuoted_of_mem_close (hrun : blanksQuoted none run.reverse = true)
    (h : fragment ∈ fragments.close run) : fragment ≠ [] ∧ blanksQuoted none fragment = true := by
  obtain ⟨hne, rfl⟩ := mem_close_iff.1 h
  exact ⟨mt List.reverse_eq_nil_iff.1 hne, hrun⟩

/-- The fragments one behind the other are the run in front of the text, and the text without its
blanks outside quotes. -/
theorem flatten_go (quote : Option Char) (run s : List Char) :
    (fragments.go quote run s).flatten = run.reverse ++ withoutBlanks quote s := by
  induction s generalizing quote run with
  | nil => rw [fragments.go, flatten_close, withoutBlanks, List.append_nil]
  | cons c rest ih =>
    rw [fragments.go, withoutBlanks]
    split
    · next hblank =>
      obtain rfl := Option.isNone_iff_eq_none.1 (Bool.and_eq_true_iff.1 hblank).1
      rw [List.flatten_append, flatten_close, ih]
      rfl
    · rw [ih, List.reverse_cons, List.append_assoc]
      rfl

theorem blanksQuoted_append (quote : Option Char) (s t : List Char) :
    blanksQuoted quote (s ++ t) =
      (blanksQuoted quote s && blanksQuoted (quoteBehind quote s) t) := by
  induction s generalizing quote with
  | nil => rfl
  | cons c s ih =>
    rw [List.cons_append, blanksQuoted, blanksQuoted, ih, Bool.and_assoc]
    rfl

/-- No fragment is empty or has a blank outside quotes, if the run in front of the text has none.
The scan over the run ends where that over the text begins. -/
theorem blanksQuoted_of_mem_go (hrun : blanksQuoted none run.reverse = true)
    (hquote : quoteBehind none run.reverse = quote) (h : fragment ∈ fragments.go quote run s) :
    fragment ≠ [] ∧ blanksQuoted none fragment = true := by
  induction s generalizing quote run with
  | nil => exact blanksQuoted_of_mem_close hrun h
  | cons c rest ih =>
    rw [fragments.go] at h
    split at h
    · rcases List.mem_append.1 h with h | h
      · exact blanksQuoted_of_mem_close hrun h
      · have hnil : blanksQuoted none ([] : List Char).reverse = true := rfl
        exact ih hnil rfl h
    · next hblank =>
      refine ih ?_ ?_ h
      · rw [List.reverse_cons, blanksQuoted_append, hrun, hquote]
        cases quote with
        | none => simpa [blanksQuoted] using hblank
        | some q => rfl
      · rw [List.reverse_cons, quoteBehind_append, hquote]
        rfl

/-- Where the scan comes to a blank outside quotes, the text behind it is cut as if nothing stood in
front. -/
theorem fragments_go_append_cons {b : Char} (hb : isBlank b = true) (h : quoteBehind quote s = none)
    (t : List Char) :
    fragments.go quote run (s ++ b :: t) = fragments.go quote run s ++ fragments.go none [] t := by
  induction s generalizing quote run with
  | nil =>
    obtain rfl : quote = none := h
    rw [List.nil_append, fragments.go, fragments.go, if_pos]
    exact hb
  | cons c rest ih =>
    rw [List.cons_append, fragments.go, fragments.go]
    split
    · next hblank =>
      -- the blank leaves no quote open
      rw [Bool.and_eq_true, Option.isNone_iff_eq_none] at hblank
      obtain ⟨rfl, hc⟩ := hblank
      have hquote : isQuote c = false := (isMark_eq_false_iff.1 (isMark_of_class hc rfl)).1
      have hrest : quoteBehind none rest = none := by
        rw [quoteBehind, List.foldl_cons, quoteAfter, hquote] at h
        exact h
      rw [ih hrest, List.append_assoc]
    · exact ih h

end Fragments

/-! ### Both cuts -/

/-- A split at a separator outside quotes and brackets loses nothing, its pieces are not split any
further, and behind text that closes its quotes and brackets it begins anew. A cut at blanks outside
quotes loses just these; its fragments are there, hold none of them, and are not cut any further, as
no other text without them is; and behind text that closes its quotes the cut begins anew. -/
theorem cuts_outside_quotes (s : List Char) :
    (∀ sep, [sep].intercalate (splitUnquoted sep s) = s ∧
      (∀ piece ∈ splitUnquoted sep s, splitUnquoted sep piece = [piece]) ∧
      (isMark sep = false → nestingBehind {} s = {} → ∀ t,
        splitUnquoted sep (s ++ sep :: t) = splitUnquoted sep s ++ splitUnquoted sep t)) ∧
    (fragments s).flatten = withoutBlanks none s ∧
    (∀ fragment ∈ fragments s, fragment ≠ [] ∧ blanksQuoted none fragment = true ∧
      fragments fragment = [fragment]) ∧
    (s ≠ [] → blanksQuoted none s = true → fragments s = [s]) ∧
    ∀ blank, isBlank blank = true → quoteBehind none s = none → ∀ t,
      fragments (s ++ blank :: t) = fragments s ++ fragments t := by
  refine ⟨fun sep => ⟨intercalate_splitFrom sep {} s, fun piece => splitUnquoted_of_mem,
    fun hsep h t => splitFrom_append_cons hsep h t⟩, flatten_go none [] s,
    fun fragment hfragment => ?_, fragments_of_blanksQuoted,
    fun blank hblank h t => fragments_go_append_cons hblank h t⟩
  have hnil : blanksQuoted none ([] : List Char).reverse = true := rfl
  obtain ⟨hne, hblanks⟩ := blanksQuoted_of_mem_go hnil rfl hfragment
  exact ⟨hne, hblanks, fragments_of_blanksQuoted hne hblanks⟩

/-- A filter with an argument in quotes that holds the bar, behind a path with a bar in its index;
and fragments in front of a quote that is not closed. -/
theorem cuts_outside_quotes_markup :
    let path := "x[1|2] ".toList
    let filters := " join: '|' | size".toList
    let quoted := "a  'b c'".toList
    let unclosed := "\"d e".toList
    isMark '|' = false ∧ nestingBehind {} path = {} ∧
      splitUnquoted '|' (path ++ '|' :: filters) =
        [path, " join: '|' ".toList, " size".toList] ∧
      " join: '|' ".toList ∈ splitUnquoted '|' filters ∧
      splitUnquoted '|' " join: '|' ".toList = [" join: '|' ".toList] ∧
      isBlank ' ' = true ∧ quoteBehind none quoted = none ∧
      fragments (quoted ++ ' ' :: unclosed) = ["a".toList, "'b c'".toList, unclosed] ∧
      "'b c'".toList ∈ fragments quoted ∧ fragments "'b c'".toList = ["'b c'".toList] ∧
      unclosed ≠ [] ∧ blanksQuoted none unclosed = true ∧ fragments unclosed = [unclosed] := by
  intro path filters quoted unclosed
  have hpath : splitUnquoted '|' path = [path] := by decide
  have hfilters : splitUnquoted '|' filters = [" join: '|' ".toList, " size".toList] := by decide
  have hquoted : fragments quoted = ["a".toList, "'b c'".toList] := by decide
  have hpiece : " join: '|' ".toList ∈ splitUnquoted '|' filters := by
    rw [hfilters]
    exact List.mem_cons_self
  have hfragment : "'b c'".toList ∈ fragments quoted := by
    rw [hquoted]
    exact List.mem_cons_of_mem _ List.mem_cons_self
  have hnesting : nestingBehind {} path = {} := by decide
  have hclosed : quoteBehind none quoted = none := by decide
  have hne : unclosed ≠ [] := by decide
  have hblanks : blanksQuoted none unclosed = true := by decide
  obtain ⟨hjoin, -⟩ := cuts_outside_quotes path
  obtain ⟨hpieces, -⟩ := cuts_outside_quotes filters
  obtain ⟨-, -, hfragments, -, hbehind⟩ := cuts_outside_quotes quoted
  obtain ⟨-, -, -, hwhole, -⟩ := cuts_outside_quotes unclosed
  refine ⟨rfl, hnesting, ?_, hpiece, (hpieces '|').2.1 _ hpiece, rfl, hclosed, ?_, hfragment,
    (hfragments _ hfragment).2.2, hne, hblanks, hwhole hne hblanks⟩
  · rw [(hjoin '|').2.2 rfl hnesting filters, hpath, hfilters]
    rfl
  · rw [hbehind ' ' rfl hclosed unclosed, hquoted, hwhole hne hblanks]
    rfl

end Liquid.Text
