import Liquid.Text.Search

/-!
# Tokens

A template is cut into literal text, tags `{% … %}` and outputs `{{ … }}`. (`SPEC_FULL.md`, section
5.1.)

- `Token.scan`: the tokens of a text. A markup ends at the first closing pair behind its opening
  pair; an opening pair without one is a literal of its own, for the parser to report.
- `Token.source`: the text that a token was cut from.

Scanning never fails, and the sources of the tokens make up the text: `source_scan`.
-/

namespace Liquid

open Text

/-- A piece of a template. -/
inductive Token where
  /-- Text that stands for itself, never empty. -/
  | literal (text : String)
  /-- What stands between `{%` and `%}`. -/
  | tag (markup : String)
  /-- What stands between `{{` and `}}`. -/
  | output (markup : String)
  deriving DecidableEq, Repr, Inhabited

namespace Token

/-- The two characters that open a tag. -/
def tagOpener : List Char := ['{', '%']

/-- The two characters that close a tag. -/
def tagCloser : List Char := ['%', '}']

/-- The two characters that open an output. -/
def outputOpener : List Char := ['{', '{']

/-- The two characters that close an output. -/
def outputCloser : List Char := ['}', '}']

/-- The text that a token was cut from. -/
def source : Token → String
  | literal text => text
  | tag markup => String.ofList (tagOpener ++ markup.toList ++ tagCloser)
  | output markup => String.ofList (outputOpener ++ markup.toList ++ outputCloser)

/-- Whether a text begins with a pair that opens a markup. -/
def opens (s : List Char) : Bool :=
  (after? tagOpener s).isSome || (after? outputOpener s).isSome

/-- The text in front of the next pair that opens a markup, and the text from there on. -/
def spanLiteral : List Char → List Char × List Char
  | [] => ([], [])
  | c :: rest =>
    if opens (c :: rest) then ([], c :: rest)
    else (c :: (spanLiteral rest).1, (spanLiteral rest).2)

/-- The two parts of a literal span are the text. -/
theorem spanLiteral_append (s : List Char) : (spanLiteral s).1 ++ (spanLiteral s).2 = s := by
  induction s with
  | nil => rfl
  | cons c rest ih =>
    simp only [spanLiteral]
    split
    · rfl
    · simpa using ih

theorem length_spanLiteral_le (s : List Char) : (spanLiteral s).2.length ≤ s.length := by
  have h := congrArg List.length (spanLiteral_append s)
  simp only [List.length_append] at h
  omega

/-- The tokens of a text. -/
def scan (s : List Char) : List Token :=
  match s with
  | [] => []
  | '{' :: '%' :: rest =>
    match _h : cutAt? tagCloser rest with
    | some cut => tag (String.ofList cut.1) :: scan cut.2
    | none => literal (String.ofList tagOpener) :: scan rest
  | '{' :: '{' :: rest =>
    match _h : cutAt? outputCloser rest with
    | some cut => output (String.ofList cut.1) :: scan cut.2
    | none => literal (String.ofList outputOpener) :: scan rest
  | c :: rest =>
    literal (String.ofList (c :: (spanLiteral rest).1)) :: scan (spanLiteral rest).2
termination_by s.length
decreasing_by
  · have := length_of_cutAt? (by simp [tagCloser]) _h; simp only [List.length_cons]; omega
  · simp only [List.length_cons]; omega
  · have := length_of_cutAt? (by simp [outputCloser]) _h; simp only [List.length_cons]; omega
  · simp only [List.length_cons]; omega
  · have := length_spanLiteral_le rest; simp only [List.length_cons]; omega

end Token

/-- The tokens of a template. -/
def tokenize (source : String) : List Token := Token.scan source.toList

namespace Token

theorem toList_source_literal (s : List Char) :
    (literal (String.ofList s)).source.toList = s := by simp [source]

theorem toList_source_tag (s : List Char) :
    (tag (String.ofList s)).source.toList = tagOpener ++ s ++ tagCloser := by simp [source]

theorem toList_source_output (s : List Char) :
    (output (String.ofList s)).source.toList = outputOpener ++ s ++ outputCloser := by
  simp [source]

/-- The sources of the tokens of a text, one after the other, are the text. -/
theorem source_scan (s : List Char) : (scan s).flatMap (fun t => t.source.toList) = s := by
  fun_induction scan s with
  | case1 => rfl
  | case2 rest cut h ih =>
    rw [List.flatMap_cons, ih, toList_source_tag, cutAt?_eq_some h]
    simp [tagOpener]
  | case3 rest h ih => rw [List.flatMap_cons, ih, toList_source_literal]; rfl
  | case4 rest cut h ih =>
    rw [List.flatMap_cons, ih, toList_source_output, cutAt?_eq_some h]
    simp [outputOpener]
  | case5 rest h ih => rw [List.flatMap_cons, ih, toList_source_literal]; rfl
  | case6 c rest _ _ ih =>
    rw [List.flatMap_cons, ih, toList_source_literal, List.cons_append, spanLiteral_append]

end Token

end Liquid
