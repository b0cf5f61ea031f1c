import Liquid.Expression.Basic
import Liquid.Error
import Liquid.Text.Quoted
import Liquid.Text.Search

/-!
# Reading expressions

The forms of an expression are tried in a fixed order: constants (keywords, quoted text, integers,
decimal fractions), ranges, lists, and at last paths, which alone can fail. (`SPEC_FULL.md`, section
5.3.)

- `Expression.constant?`, `Expression.rangeParts?`, `Expression.arrayItems?`: the single forms.
- `Expression.parse`: reads an expression; blanks around it do not count.

Every part that is read further is shorter than the text it stands in, and so the reading ends.
-/

namespace Liquid.Expression

open Text

/-! ### Constants -/

/-- The text between two equal quotes that a text begins and ends with. -/
def quoted? : List Char → Option (List Char)
  | [] => none
  | q :: rest =>
    if isQuote q && rest.getLast? == some q then some rest.dropLast else none

/-- Takes a minus off a number. -/
def splitMinus : List Char → Bool × List Char
  | '-' :: rest => (true, rest)
  | s => (false, s)

/-- An integer: a minus or none, then ASCII digits, within 64 bits. -/
def integer? (s : List Char) : Option Int64 :=
  if Decimal.isDigits (splitMinus s).2 then Decimal.readInt64? s else none

/-- A decimal fraction: a minus or none, then ASCII digits on both sides of a point. -/
def fraction? (s : List Char) : Option Float :=
  match cutAt? ['.'] (splitMinus s).2 with
  | some (whole, fraction) =>
    if Decimal.isDigits whole && Decimal.isDigits fraction then Decimal.readFloat? s else none
  | none => none

/-- The value of a constant. Text that holds nothing is nil. -/
def constant? (s : List Char) : Option Value :=
  match String.ofList s with
  | "" | "nil" | "null" => some .nil
  | "true" => some (.bool true)
  | "false" => some (.bool false)
  | _ =>
    match quoted? s with
    | some text => some (.ofChars text)
    | none =>
      match integer? s with
      | some i => some (.integer i)
      | none => (fraction? s).map .float

/-! ### Ranges and lists -/

/-- The second bound of a range, from the text behind the first: two points, and behind them text
without blanks inside. -/
def upperBound? (s : List Char) : Option (List Char) :=
  match trimStart s with
  | '.' :: '.' :: rest =>
    let bound := trim rest
    if bound.isEmpty || bound.any isBlank then none else some bound
  | _ => none

/-- The two bounds of a range: the first is as short as can be, and holds no blank. -/
def bounds? : List Char → Option (List Char × List Char)
  | [] => none
  | c :: rest =>
    if isBlank c then none
    else
      match upperBound? rest with
      | some bound => some ([c], bound)
      | none => (bounds? rest).map fun b => (c :: b.1, b.2)

/-- The bounds of a range in parentheses. -/
def rangeParts? : List Char → Option (List Char × List Char)
  | '(' :: rest =>
    if rest.getLast? = some ')' then bounds? (trimStart rest.dropLast) else none
  | _ => none

/-- What stands between the brackets of a list. -/
def arrayInner? : List Char → Option (List Char)
  | '[' :: rest => if rest.getLast? = some ']' then some (trim rest.dropLast) else none
  | _ => none

/-- The items of a list, as they are written. -/
def arrayItems? (s : List Char) : Option (List (List Char)) :=
  (arrayInner? s).map fun inner => if inner.isEmpty then [] else splitUnquoted ',' inner

/-! ### Names -/

/-- A character of a variable name. -/
def isNameChar (c : Char) : Bool := isAsciiAlphanumeric c || c == '_' || c == '-' || c == '?'

/-! ### The parts are shorter than the whole -/

theorem length_of_upperBound? {s bound : List Char} (h : upperBound? s = some bound) :
    bound.length < s.length := by
  unfold upperBound? at h
  split at h
  · next rest hs =>
    simp only at h
    split at h
    · cases h
    · cases h
      have h₁ := length_trim_le rest
      have h₂ := length_dropWhile_le isBlank s
      have h₃ := congrArg List.length hs
      simp only [trimStart, List.length_cons] at h₃
      omega
  · cases h

theorem length_of_bounds? {s : List Char} {b : List Char × List Char} (h : bounds? s = some b) :
    b.1.length ≤ s.length ∧ b.2.length ≤ s.length := by
  induction s generalizing b with
  | nil => cases h
  | cons c rest ih =>
    simp only [bounds?] at h
    split at h
    · cases h
    · split at h
      · next bound hb =>
        cases h
        have := length_of_upperBound? hb
        simp only [List.length_cons, List.length_nil]
        omega
      · obtain ⟨b', hb, rfl⟩ := Option.map_eq_some_iff.1 h
        have := ih hb
        simp only [List.length_cons]
        omega

theorem length_of_rangeParts? {s : List Char} {b : List Char × List Char}
    (h : rangeParts? s = some b) : b.1.length < s.length ∧ b.2.length < s.length := by
  unfold rangeParts? at h
  split at h
  · next rest =>
    split at h
    · have h₁ := length_of_bounds? h
      have h₂ := length_dropWhile_le isBlank rest.dropLast
      simp only [trimStart, List.length_dropLast, List.length_cons] at *
      omega
    · cases h
  · cases h

theorem length_of_mem_arrayItems? {s piece : List Char} {pieces : List (List Char)}
    (h : arrayItems? s = some pieces) (hp : piece ∈ pieces) : piece.length < s.length := by
  obtain ⟨inner, hi, rfl⟩ := Option.map_eq_some_iff.1 h
  unfold arrayInner? at hi
  split at hi
  · next rest =>
    split at hi
    · cases hi
      split at hp
      · simp at hp
      · have h₁ := length_of_mem_splitUnquoted hp
        have h₂ := length_trim_le rest.dropLast
        simp only [List.length_dropLast, List.length_cons] at *
        omega
    · cases hi
  · cases hi

/-! ### Expressions -/

mutual

/-- Reads an expression. -/
def parse (markup : List Char) : Except Error Expression :=
  match constant? (trim markup) with
  | some value => .ok (.literal value)
  | none =>
    match _hr : rangeParts? (trim markup) with
    | some parts => do
      let first ← parse parts.1
      let last ← parse parts.2
      return .range first last
    | none =>
      match _ha : arrayItems? (trim markup) with
      | some pieces => do
        let items ← pieces.attach.mapM fun piece => parse piece.1
        return .array items
      | none => do
        let text := String.ofList (trim markup)
        let root := (trim markup).takeWhile isNameChar
        if root.isEmpty then throw (.markup .variableName text)
        let segments ← parseSegments text ((trim markup).dropWhile isNameChar)
        return .path (String.ofList root) segments text
termination_by (markup.length, 1)
decreasing_by
  · have := length_of_rangeParts? _hr
    have := length_trim_le markup
    exact Prod.Lex.left _ _ (by omega)
  · have := length_of_rangeParts? _hr
    have := length_trim_le markup
    exact Prod.Lex.left _ _ (by omega)
  · have := length_of_mem_arrayItems? _ha piece.2
    have := length_trim_le markup
    exact Prod.Lex.left _ _ (by omega)
  · have h₁ := length_trim_le markup
    have h₂ := length_dropWhile_le isNameChar (trim markup)
    rcases Nat.lt_or_ge ((trim markup).dropWhile isNameChar).length markup.length with h | h
    · exact Prod.Lex.left _ _ h
    · have h₃ : ((trim markup).dropWhile isNameChar).length = markup.length := by omega
      rw [h₃]
      exact Prod.Lex.right _ (by omega)

/-- Reads the segments of the path `whole`. -/
def parseSegments (whole : String) (s : List Char) : Except Error (List Segment) :=
  match s with
  | [] => .ok []
  | '.' :: rest => do
    let name := rest.takeWhile isNameChar
    if name.isEmpty then throw (.markup .variableName whole)
    let segments ← parseSegments whole (rest.dropWhile isNameChar)
    return .key (String.ofList name) :: segments
  | '[' :: rest =>
    match _h : cutBracket? rest with
    | some cut => do
      let index ← parse cut.1
      let segments ← parseSegments whole cut.2
      return .index index :: segments
    | none => .error (.markup .variableName whole)
  | _ :: _ => .error (.markup .variableName whole)
termination_by (s.length, 0)
decreasing_by
  · have := length_dropWhile_le isNameChar rest
    exact Prod.Lex.left _ _ (by simp only [List.length_cons]; omega)
  · have := length_of_cutBracket? _h
    exact Prod.Lex.left _ _ (by simp only [List.length_cons]; omega)
  · have := length_of_cutBracket? _h
    exact Prod.Lex.left _ _ (by simp only [List.length_cons]; omega)

end

end Liquid.Expression
