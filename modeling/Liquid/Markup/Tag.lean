import Liquid.Text.Blank
import Liquid.Text.CharClass

/-!
# The markup of a tag

The forms that tags share, as recognisers on lists of characters. Each of them answers with the
parts of the form, or with nothing if the text does not have it.

- `Markup.split?`: the name of a tag, and the rest.
- `Markup.assignment?`: `name = value`.
- `Markup.word?`: a single word.
- `Markup.takeValue?`: the next value of an option: quoted text, or a run without blanks and
  commas.
- `Markup.attributes`: all options `name: value` of a text, in order.
-/

namespace Liquid.Markup

open Text

/-- The name of a tag, which is its first word, and what follows it without blanks around. -/
def split? (s : List Char) : Option (List Char × List Char) :=
  let name := (trimStart s).takeWhile isWord
  if name.isEmpty then none else some (name, trim ((trimStart s).dropWhile isWord))

/-- The two sides of `name = value`. A name may hold hyphens. -/
def assignment? (s : List Char) : Option (List Char × List Char) :=
  let isName (c : Char) : Bool := isWord c || c == '-'
  let name := (trimStart s).takeWhile isName
  match trimStart ((trimStart s).dropWhile isName) with
  | '=' :: rest =>
    if name.isEmpty || (trim rest).isEmpty then none else some (name, trim rest)
  | _ => none

/-- A text that is one word and nothing else. -/
def word? (s : List Char) : Option (List Char) :=
  if (trim s).isEmpty || !(trim s).all isWord then none else some (trim s)

/-- Quoted text in front, with its quotes, and what follows it. -/
def takeQuoted? : List Char → Option (List Char × List Char)
  | [] => none
  | q :: rest =>
    if q != '"' && q != '\'' then none
    else
      match rest.dropWhile (· != q) with
      | [] => none
      | _ :: behind => some (q :: rest.takeWhile (· != q) ++ [q], behind)

/-- A character of a value that is not quoted. -/
def isPlain (c : Char) : Bool := !isBlank c && c != ','

/-- The value in front, and what follows it: quoted text if the quote is closed, else a run of
characters that are neither blanks nor commas. -/
def takeValue? (s : List Char) : Option (List Char × List Char) :=
  match takeQuoted? s with
  | some found => some found
  | none =>
    if (s.takeWhile isPlain).isEmpty then none
    else some (s.takeWhile isPlain, s.dropWhile isPlain)

/-- What follows the name of an option: a colon and a value, blanks around the colon allowed. -/
def takeOption? (s : List Char) : Option (List Char × List Char) :=
  match trimStart s with
  | ':' :: rest => takeValue? (trimStart rest)
  | _ => none

theorem length_of_takeValue? {s : List Char} {found : List Char × List Char}
    (h : takeValue? s = some found) : found.2.length ≤ s.length := by
  unfold takeValue? at h
  split at h
  · next quoted hq =>
    cases h
    unfold takeQuoted? at hq
    split at hq
    · cases hq
    · next q rest =>
      split at hq
      · cases hq
      · split at hq
        · cases hq
        · next _ behind hb =>
          cases hq
          have := length_dropWhile_le (· != q) rest
          rw [hb] at this
          simp only [List.length_cons] at *
          omega
  · split at h
    · cases h
    · cases h
      exact length_dropWhile_le isPlain s

theorem length_of_takeOption? {s : List Char} {found : List Char × List Char}
    (h : takeOption? s = some found) : found.2.length ≤ s.length := by
  unfold takeOption? at h
  split at h
  · next rest hs =>
    have h₁ := length_of_takeValue? h
    have h₂ := length_dropWhile_le isBlank rest
    have h₃ := length_dropWhile_le isBlank s
    have h₄ := congrArg List.length hs
    simp only [trimStart, List.length_cons] at *
    omega
  · cases h

/-- All options `name: value`, in order. A word that no colon and value follow is skipped, and so
is everything between words. -/
def attributes (s : List Char) : List (List Char × List Char) :=
  match s with
  | [] => []
  | c :: rest =>
    if isWord c then
      match _h : takeOption? (rest.dropWhile isWord) with
      | some (value, behind) => (c :: rest.takeWhile isWord, value) :: attributes behind
      | none => attributes (rest.dropWhile isWord)
    else attributes rest
termination_by s.length
decreasing_by
  · have h₁ := length_of_takeOption? _h
    have h₂ := length_dropWhile_le isWord rest
    simp only [List.length_cons] at *
    omega
  · have := length_dropWhile_le isWord rest
    simp only [List.length_cons]
    omega
  · simp

end Liquid.Markup
