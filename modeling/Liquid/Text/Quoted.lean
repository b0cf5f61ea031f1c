import Liquid.Text.Blank

/-!
# Text with quotes and brackets

Markup is cut at characters that stand outside quotes, and for some cuts also outside brackets.
A quote is opened by `'` or `"` and closed by the same character; brackets of both kinds, `[ ]`
and `( )`, share one count, which never goes below zero.

- `splitUnquoted`: the pieces between separators outside quotes and brackets.
- `cutUnquoted?`: the text in front of the first given character outside quotes, and behind it.
- `fragments`: the runs that hold no blank character outside quotes.
- `cutBracket?`: the text up to the `]` that closes a bracket, and behind it.
-/

namespace Liquid.Text

/-- The two characters that open a quote. -/
def isQuote (c : Char) : Bool := c == '\'' || c == '"'

/-- The quote that stands open after `c`, when `quote` stood open before it. -/
def quoteAfter (quote : Option Char) (c : Char) : Option Char :=
  match quote with
  | some q => if c = q then none else some q
  | none => if isQuote c then some c else none

/-- Where a scan over markup stands: the quote that is open, and how many brackets are. -/
structure Nesting where
  /-- The quote character that opened the quote the scan is in. -/
  quote : Option Char := none
  /-- The brackets and parentheses open outside quotes. -/
  depth : Nat := 0
  deriving DecidableEq, Repr, Inhabited

/-- The nesting after one more character. -/
def Nesting.step (n : Nesting) (c : Char) : Nesting :=
  { quote := quoteAfter n.quote c
    depth :=
      if n.quote.isSome then n.depth
      else if c = '[' ∨ c = '(' then n.depth + 1
      else if c = ']' ∨ c = ')' then n.depth - 1
      else n.depth }

/-- Whether `c` divides the text here: it is the separator, outside quotes and brackets. Quotes
and brackets themselves never divide. -/
def Nesting.divides (n : Nesting) (sep c : Char) : Bool :=
  n.quote.isNone && n.depth == 0 && c == sep
    && !(isQuote c || c == '[' || c == '(' || c == ']' || c == ')')

/-- Puts a character in front of the first piece. -/
def consFirst (c : Char) : List (List Char) → List (List Char)
  | [] => [[c]]
  | piece :: pieces => (c :: piece) :: pieces

/-- The pieces of the text, when the scan stands at `n`. -/
def splitFrom (sep : Char) (n : Nesting) : List Char → List (List Char)
  | [] => [[]]
  | c :: rest =>
    if n.divides sep c then [] :: splitFrom sep n rest
    else consFirst c (splitFrom sep (n.step c) rest)

/-- Splits at every `sep` outside quotes, brackets and parentheses. -/
def splitUnquoted (sep : Char) (s : List Char) : List (List Char) := splitFrom sep {} s

/-- The text in front of the first `target` outside quotes, and the text behind it, when `quote`
stands open. -/
def cutUnquotedFrom? (target : Char) (quote : Option Char) :
    List Char → Option (List Char × List Char)
  | [] => none
  | c :: rest =>
    if quote.isNone && !isQuote c && c == target then some ([], rest)
    else (cutUnquotedFrom? target (quoteAfter quote c) rest).map fun cut => (c :: cut.1, cut.2)

/-- The text in front of the first `target` outside quotes, and the text behind it. -/
def cutUnquoted? (target : Char) (s : List Char) : Option (List Char × List Char) :=
  cutUnquotedFrom? target none s

/-- The runs of characters that hold no blank outside quotes. -/
def fragments (s : List Char) : List (List Char) :=
  go none [] s
where
  /-- Closes the run that `run` holds back to front, if it has any character. -/
  close (run : List Char) : List (List Char) :=
    if run.isEmpty then [] else [run.reverse]
  /-- Reads on with the open quote and, back to front, the run begun so far. -/
  go (quote : Option Char) (run : List Char) : List Char → List (List Char)
    | [] => close run
    | c :: rest =>
      if quote.isNone && isBlank c then close run ++ go none [] rest
      else go (quoteAfter quote c) (c :: run) rest

/-- The text up to the `]` that brings `depth` open brackets down to none, and the text behind
it. Brackets inside quotes do not count. -/
def cutBracketFrom? (quote : Option Char) (depth : Nat) :
    List Char → Option (List Char × List Char)
  | [] => none
  | c :: rest =>
    if quote.isNone && c == ']' && depth ≤ 1 then some ([], rest)
    else
      let depth' :=
        if quote.isSome then depth
        else if c = '[' then depth + 1
        else if c = ']' then depth - 1
        else depth
      (cutBracketFrom? (quoteAfter quote c) depth' rest).map fun cut => (c :: cut.1, cut.2)

/-- For the text behind a `[`: the text inside that bracket, and the text behind it. -/
def cutBracket? (s : List Char) : Option (List Char × List Char) := cutBracketFrom? none 1 s

/-! ### Pieces are no longer than the text -/

theorem splitFrom_ne_nil (sep : Char) (n : Nesting) (s : List Char) :
    splitFrom sep n s ≠ [] := by
  cases s with
  | nil => simp [splitFrom]
  | cons c rest =>
    simp only [splitFrom]
    split
    · simp
    · cases h : splitFrom sep (n.step c) rest <;> simp [consFirst]

theorem mem_consFirst_length {c : Char} {piece : List Char} :
    ∀ {pieces : List (List Char)}, piece ∈ consFirst c pieces →
      piece ∈ pieces ∨ piece = [c] ∨ ∃ first ∈ pieces, piece = c :: first
  | [], h => by simp_all [consFirst]
  | first :: pieces, h => by
    rcases List.mem_cons.1 (by simpa [consFirst] using h) with h | h
    · exact .inr (.inr ⟨first, by simp, h⟩)
    · exact .inl (by simp [h])

theorem length_of_mem_splitFrom {sep : Char} {n : Nesting} {s piece : List Char}
    (h : piece ∈ splitFrom sep n s) : piece.length ≤ s.length := by
  induction s generalizing n piece with
  | nil => simp_all [splitFrom]
  | cons c rest ih =>
    simp only [splitFrom] at h
    split at h
    · rcases List.mem_cons.1 h with rfl | h
      · simp
      · exact Nat.le_succ_of_le (ih h)
    · rcases mem_consFirst_length h with h | rfl | ⟨first, hf, rfl⟩
      · exact Nat.le_succ_of_le (ih h)
      · simp
      · simpa using ih hf

theorem length_of_mem_splitUnquoted {sep : Char} {s piece : List Char}
    (h : piece ∈ splitUnquoted sep s) : piece.length ≤ s.length :=
  length_of_mem_splitFrom h

/-- The two parts of a bracket cut, with the closing bracket between them, are the text. -/
theorem cutBracketFrom?_eq_some {quote : Option Char} {depth : Nat} {s : List Char}
    {cut : List Char × List Char} (h : cutBracketFrom? quote depth s = some cut) :
    s = cut.1 ++ ']' :: cut.2 := by
  induction s generalizing quote depth cut with
  | nil => simp [cutBracketFrom?] at h
  | cons c rest ih =>
    simp only [cutBracketFrom?] at h
    split at h
    · next hc =>
      cases h
      simp only [Bool.and_eq_true, beq_iff_eq] at hc
      simp [hc.1.2]
    · obtain ⟨cut', hc, rfl⟩ := Option.map_eq_some_iff.1 h
      simpa using ih hc

theorem length_of_cutBracket? {s : List Char} {cut : List Char × List Char}
    (h : cutBracket? s = some cut) :
    cut.1.length < s.length ∧ cut.2.length < s.length := by
  have hs := congrArg List.length (cutBracketFrom?_eq_some h)
  simp only [List.length_append, List.length_cons] at hs
  omega

end Liquid.Text
