import Liquid.Text.Case.Table

/-!
# Upper and lower case

Full case mapping: a character may become several, and a capital sigma at the end of a word
becomes `ς` instead of `σ`.

- `upper`: the upper case of a text.
- `lower`: the lower case of a text, with the rule for the final sigma.
-/

namespace Liquid.Text

open Case

/-- The image of `n` under the run, if the run holds it. -/
def Case.Run.image? (r : Run) (n : Nat) : Option Char :=
  if r.first ≤ n ∧ n ≤ r.last ∧ (n - r.first) % r.step = 0 then
    some (Char.ofNat (n + r.offset).toNat)
  else none

/-- The image of a character beyond ASCII, by a table of runs and a table of sequences. -/
def Case.mapBy (runs : List Run) (sequences : List (Nat × List Nat)) (c : Char) : List Char :=
  match runs.findSome? (·.image? c.toNat) with
  | some image => [image]
  | none =>
    match sequences.lookup c.toNat with
    | some images => images.map Char.ofNat
    | none => [c]

/-- The upper case of a character. -/
def upperChar (c : Char) : List Char :=
  if c.toNat < 0x80 then [c.toUpper] else mapBy upperRuns upperSequences c

/-- The lower case of a character that stands by itself. -/
def lowerChar (c : Char) : List Char :=
  if c.toNat < 0x80 then [c.toLower] else mapBy lowerRuns lowerSequences c

/-- The upper case of a text. -/
def upper (s : List Char) : List Char := s.flatMap upperChar

/-- Whether the first character that is not ignorable for case is a cased one. -/
def Case.startsCased (s : List Char) : Bool :=
  match s.dropWhile fun c => caseIgnorable.holds c.toNat with
  | [] => false
  | c :: _ => cased.holds c.toNat

/-- The lower case of `s`, where `before` is the text in front of it, back to front. A capital
sigma behind a cased character and not in front of one is final. -/
def Case.lowerFrom (before : List Char) : List Char → List Char
  | [] => []
  | c :: rest =>
    (if c = 'Σ' then
      if startsCased before && !startsCased rest then ['ς'] else ['σ']
    else lowerChar c) ++ lowerFrom (c :: before) rest

/-- The lower case of a text. -/
def lower (s : List Char) : List Char := lowerFrom [] s

end Liquid.Text
