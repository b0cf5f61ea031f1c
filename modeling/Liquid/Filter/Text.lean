import Liquid.Filter.Basic
import Liquid.Text.Case
import Liquid.Text.Search
import Liquid.Text.Html
import Liquid.Text.Percent

/-!
# Filters on text

Case, blanks, HTML, replacement, truncation and splitting. A value that is no string takes part
with its text.

- `Text.capitalize`, `Text.truncate`, `Text.truncateWords`, `Text.pieces`, `Text.breakLines`: the
  operations that are more than a look at `Liquid.Text`.
- `Filter.textual`: the filters, by name.
-/

namespace Liquid

namespace Text

/-- The first character in upper case and the others in lower case. -/
def capitalize : List Char → List Char
  | [] => []
  | c :: rest => upperChar c ++ lower rest

/-- The text without ends of lines, of one character or of two. -/
def joinLines (s : List Char) : List Char := replaceAll ['\n'] [] (replaceAll ['\r', '\n'] [] s)

/-- The text with a line break element in front of each end of line. -/
def breakLines (s : List Char) : List Char :=
  replaceAll ['\n'] "<br />\n".toList (replaceAll ['\r', '\n'] ['\n'] s)

/-- The text cut down to `length` characters, with `mark` as the last ones of them. The mark itself
is never cut. -/
def truncate (length : Nat) (mark s : List Char) : List Char :=
  if s.length ≤ length then s else s.take (length - mark.length) ++ mark

/-- The text cut down to its first `count` words, with `mark` behind them. -/
def truncateWords (count : Nat) (mark s : List Char) : List Char :=
  let ws := words s
  if ws.length ≤ count then s else List.intercalate [' '] (ws.take count) ++ mark

/-- The pieces of a text between the occurrences of `pat`: characters if that is empty, words if it
is a space. Empty pieces at the end do not count. -/
def pieces (pat s : List Char) : List (List Char) :=
  let all := if pat.isEmpty then s.map ([·]) else if pat = [' '] then words s else splitOn pat s
  (all.reverse.dropWhile List.isEmpty).reverse

theorem truncate_of_length_le {length : Nat} {mark s : List Char} (h : s.length ≤ length) :
    truncate length mark s = s := by
  simp [truncate, h]

/-- A text that is cut has the length asked for, or that of the mark. -/
theorem length_truncate {length : Nat} {mark s : List Char} (h : length < s.length) :
    (truncate length mark s).length = max length mark.length := by
  simp only [truncate, Nat.not_le.2 h, if_false, List.length_append, List.length_take]
  omega

end Text

namespace Filter

open Liquid.Text

/-- Puts the text of the second argument in the place of that of the first. -/
def replace (put : (old new s : List Char) → List Char) : Filter := fun value arguments =>
  .ok (.ofChars (put (textArgument arguments 0) (textArgument arguments 1) value.toChars))

/-- Takes the text of the argument out. -/
def remove (put : (old new s : List Char) → List Char) : Filter := fun value arguments =>
  .ok (.ofChars (put (textArgument arguments 0) [] value.toChars))

/-- Puts the text of the argument behind the value. -/
def append : Filter := fun value arguments =>
  .ok (.ofChars (value.toChars ++ textArgument arguments 0))

/-- Puts the text of the argument in front of the value. -/
def prepend : Filter := fun value arguments =>
  .ok (.ofChars (textArgument arguments 0 ++ value.toChars))

/-- Cuts the text down to a number of characters, fifty unless an argument says otherwise. -/
def truncate : Filter := fun value arguments =>
  onTextUnlessNil
    (Text.truncate (countArgument 50 arguments 0) (textArgumentOr "..." arguments 1))
    value arguments

/-- Cuts the text down to a number of words, fifteen unless an argument says otherwise and never
less than one. -/
def truncateWords : Filter := fun value arguments =>
  onTextUnlessNil
    (Text.truncateWords (max 1 (countArgument 15 arguments 0)) (textArgumentOr "..." arguments 1))
    value arguments

/-- Splits the text at the text of the argument. -/
def split : Filter := fun value arguments =>
  .ok (.list ((pieces (textArgument arguments 0) value.toChars).map Value.ofChars))

/-- The filters on text. -/
def textual : List (String × Filter) :=
  [("downcase", onText lower),
   ("upcase", onText upper),
   ("capitalize", onText capitalize),
   ("escape", onTextUnlessNil Html.escape),
   ("h", onTextUnlessNil Html.escape),
   ("escape_once", onText Html.escapeOnce),
   ("strip_html", onText Html.strip),
   ("strip_newlines", onText joinLines),
   ("newline_to_br", onText breakLines),
   ("replace", replace replaceAll),
   ("replace_first", replace replaceFirst),
   ("remove", remove replaceAll),
   ("remove_first", remove replaceFirst),
   ("append", append),
   ("prepend", prepend),
   ("truncate", truncate),
   ("truncatewords", truncateWords),
   ("split", split),
   ("strip", onText trim),
   ("lstrip", onText trimStart),
   ("rstrip", onText trimEnd),
   ("url_encode", onTextUnlessNil Percent.encode),
   ("url_decode", onTextUnlessNil Percent.decode)]

end Filter

end Liquid
