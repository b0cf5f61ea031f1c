import Liquid.Toml.Basic
import Liquid.Decimal.Reader
import Liquid.Text.Html
import Liquid.Text.Search
import Liquid.Date.Calendar

/-!
# TOML scalars

Strings, numbers and dates in TOML text. Every reader takes a value off the front of a text and
gives it with the rest.

- `takeString?`: the four kinds of strings; in those of several lines an end of line is one
  character.
- `takeDate?`: a date, a time of day, or both with or without an offset, in standard form.
- `takeNumber?`: integers in four bases, within 64 bits, and doubles.
-/

namespace Liquid.Toml

open Liquid.Text
open Liquid.Decimal (natOfDigits int64? readFloat?)

/-! ### Blanks -/

/-- A blank within a line. -/
def isBlank (c : Char) : Bool := c == ' ' || c == '\t'

/-- Skips the blanks within a line. -/
def skipBlanks (s : List Char) : List Char := s.dropWhile isBlank

/-- Takes an end of line off a text. -/
def takeNewline? : List Char → Option (List Char)
  | '\n' :: rest => some rest
  | '\r' :: '\n' :: rest => some rest
  | _ => none

/-- A character that may stand in comments, and in strings apart from quotes and backslashes. -/
def isPlain (c : Char) : Bool := c == '\t' || (0x20 ≤ c.toNat && c.toNat != 0x7F)

/-! ### Strings -/

/-- The value of hexadecimal digits. -/
def natOfHex (digits : List Char) : Nat :=
  digits.foldl (fun n d => 16 * n + (if isAsciiDigit d then d.toNat - '0'.toNat
    else (d.toLower.toNat - 'a'.toNat) + 10)) 0

/-- Takes a character given by the number of its digits off a text. -/
def takeCodePoint? (count : Nat) (s : List Char) : Option (Char × List Char) :=
  let digits := s.take count
  let n := natOfHex digits
  if digits.length = count ∧ digits.all Html.isHexDigit ∧ n.isValidChar then
    some (Char.ofNat n, s.drop count)
  else none

/-- Takes what follows a backslash off a text. -/
def takeEscape? : List Char → Option (Char × List Char)
  | 'b' :: rest => some ('\x08', rest)
  | 't' :: rest => some ('\t', rest)
  | 'n' :: rest => some ('\n', rest)
  | 'f' :: rest => some ('\x0c', rest)
  | 'r' :: rest => some ('\r', rest)
  | '"' :: rest => some ('"', rest)
  | '\\' :: rest => some ('\\', rest)
  | 'u' :: rest => takeCodePoint? 4 rest
  | 'U' :: rest => takeCodePoint? 8 rest
  | _ => none

/-- Reads a string of one line up to its closing quote, with the characters read so far back to
front. There are no more characters than `fuel`. -/
def readLine (quote : Char) : (fuel : Nat) → (read : List Char) → List Char →
    Option (List Char × List Char)
  | 0, _, _ => none
  | fuel + 1, read, s =>
    match s with
    | [] => none
    | c :: rest =>
      if c = quote then some (read.reverse, rest)
      else if c = '\\' ∧ quote = '"' then
        match takeEscape? rest with
        | some (c, rest) => readLine quote fuel (c :: read) rest
        | none => none
      else if isPlain c then readLine quote fuel (c :: read) rest
      else none

/-- Skips blanks and ends of lines; there are no more lines than `fuel`. -/
def skipLines : (fuel : Nat) → List Char → List Char
  | 0, s => s
  | fuel + 1, s =>
    match takeNewline? (skipBlanks s) with
    | some rest => skipLines fuel rest
    | none => skipBlanks s

/-- What follows a backslash at the end of a line: the blanks and ends of lines behind it go. -/
def skipJoinedLines? (s : List Char) : Option (List Char) :=
  (takeNewline? (skipBlanks s)).map (skipLines s.length)

/-- Reads a string of several lines up to its three closing quotes. In front of them one or two
more may stand that belong to the string. -/
def readLines (quote : Char) : (fuel : Nat) → (read : List Char) → List Char →
    Option (List Char × List Char)
  | 0, _, _ => none
  | fuel + 1, read, s =>
    match s with
    | [] => none
    | c :: rest =>
      if c = quote then
        let quotes := (s.takeWhile (· == quote)).length
        if quotes < 3 then readLines quote fuel (c :: read) rest
        else
          let inner := min (quotes - 3) 2
          some (read.reverse ++ List.replicate inner quote, s.drop (inner + 3))
      else if c = '\\' ∧ quote = '"' then
        match skipJoinedLines? rest, takeEscape? rest with
        | some rest, _ => readLines quote fuel read rest
        | none, some (c, rest) => readLines quote fuel (c :: read) rest
        | none, none => none
      else
        match takeNewline? s with
        | some rest => readLines quote fuel ('\n' :: read) rest
        | none => if isPlain c then readLines quote fuel (c :: read) rest else none

/-- Takes a string of one line off a text. -/
def takeLine? : List Char → Option (List Char × List Char)
  | '"' :: rest => readLine '"' (rest.length + 1) [] rest
  | '\'' :: rest => readLine '\'' (rest.length + 1) [] rest
  | _ => none

/-- Reads a string of several lines; an end of line right behind the opening quotes does not
count. -/
def readBlock (quote : Char) (s : List Char) : Option (List Char × List Char) :=
  readLines quote (s.length + 1) [] ((takeNewline? s).getD s)

/-- Takes a string of any kind off a text. -/
def takeString? : List Char → Option (List Char × List Char)
  | '"' :: '"' :: '"' :: rest => readBlock '"' rest
  | '\'' :: '\'' :: '\'' :: rest => readBlock '\'' rest
  | s => takeLine? s

/-! ### Dates -/

/-- Takes a number of exactly `count` digits off a text, from `least` to `most`. -/
def takeField? (count least most : Nat) (s : List Char) : Option (List Char × List Char) :=
  let digits := s.take count
  if digits.length = count ∧ digits.all isAsciiDigit ∧ least ≤ natOfDigits digits
      ∧ natOfDigits digits ≤ most then
    some (digits, s.drop count)
  else none

/-- Takes a day off a text. -/
def takeDay? (s : List Char) : Option (List Char × List Char) := do
  let (year, s) ← takeField? 4 0 9999 s
  let s ← after? ['-'] s
  let (month, s) ← takeField? 2 1 12 s
  let s ← after? ['-'] s
  let last := (Date.monthLengths (natOfDigits year)).getD (natOfDigits month - 1) 0
  let (day, s) ← takeField? 2 1 last s
  some (year ++ '-' :: month ++ '-' :: day, s)

/-- The digits of a fraction of a second in standard form: no more than nine, and no zero at the
end. -/
def standardFraction (digits : List Char) : List Char :=
  match ((digits.take 9).reverse.dropWhile (· == '0')).reverse with
  | [] => []
  | digits => '.' :: digits

/-- Takes a fraction of a second off a text, if there is one. -/
def takeFraction? : List Char → Option (List Char × List Char)
  | '.' :: s =>
    let digits := s.takeWhile isAsciiDigit
    if digits.isEmpty then none
    else some (standardFraction digits, s.dropWhile isAsciiDigit)
  | s => some ([], s)

/-- Takes a time of day off a text. -/
def takeTime? (s : List Char) : Option (List Char × List Char) := do
  let (hour, s) ← takeField? 2 0 23 s
  let s ← after? [':'] s
  let (minute, s) ← takeField? 2 0 59 s
  let s ← after? [':'] s
  let (second, s) ← takeField? 2 0 60 s
  let (fraction, s) ← takeFraction? s
  some (hour ++ ':' :: minute ++ ':' :: second ++ fraction, s)

/-- Takes an offset off a text, if there is one. An offset of nothing is positive. -/
def takeOffset? : List Char → Option (List Char × List Char)
  | 'Z' :: s | 'z' :: s => some (['Z'], s)
  | c :: s =>
    if c = '+' ∨ c = '-' then do
      let (hour, s) ← takeField? 2 0 23 s
      let s ← after? [':'] s
      let (minute, s) ← takeField? 2 0 59 s
      let sign := if natOfDigits (hour ++ minute) = 0 then '+' else c
      some (sign :: hour ++ ':' :: minute, s)
    else some ([], c :: s)
  | [] => some ([], [])

/-- Whether a text begins with a time of day, right or wrong. -/
def beginsTime : List Char → Bool
  | a :: b :: ':' :: _ => isAsciiDigit a && isAsciiDigit b
  | _ => false

/-- Whether a text begins with a day, right or wrong. -/
def beginsDay : List Char → Bool
  | a :: b :: c :: d :: '-' :: _ => [a, b, c, d].all isAsciiDigit
  | _ => false

/-- What stands between a day and a time. -/
def isDateDivider (c : Char) : Bool := c == 'T' || c == 't' || c == ' '

/-- Takes a date off a text that begins with a day or a time. -/
def takeDate? (s : List Char) : Option (List Char × List Char) :=
  if beginsTime s then takeTime? s
  else do
    let (day, s) ← takeDay? s
    match s with
    | c :: rest =>
      if isDateDivider c && beginsTime rest then
        let (time, s) ← takeTime? rest
        let (offset, s) ← takeOffset? s
        some (day ++ 'T' :: time ++ offset, s)
      else some (day, s)
    | [] => some (day, [])

/-! ### Numbers -/

/-- Takes digits of a class off a text, between which single underscores may stand; the digits
alone, and the rest. `fuel` bounds their number. -/
def takeDigits (p : Char → Bool) : (fuel : Nat) → List Char → List Char × List Char
  | 0, s => ([], s)
  | fuel + 1, s =>
    match s with
    | c :: rest =>
      if p c then
        let rest := match rest with
          | '_' :: d :: rest => if p d then d :: rest else '_' :: d :: rest
          | rest => rest
        let (digits, rest) := takeDigits p fuel rest
        (c :: digits, rest)
      else ([], s)
    | [] => ([], [])

/-- Takes one digit or more off a text. -/
def takeDigits? (p : Char → Bool) (s : List Char) : Option (List Char × List Char) :=
  match takeDigits p s.length s with
  | ([], _) => none
  | taken => some taken

/-- Takes a decimal whole number off a text. It has no zero in front. -/
def takeWhole? (s : List Char) : Option (List Char × List Char) :=
  match s with
  | '0' :: rest => some (['0'], rest)
  | s => takeDigits? isAsciiDigit s

/-- Takes an exponent off a text, if there is one. -/
def takeExponent? : List Char → Option (List Char × List Char)
  | c :: s =>
    if c = 'e' ∨ c = 'E' then
      let (sign, s) := match s with
        | '+' :: s => ([], s)
        | '-' :: s => (['-'], s)
        | s => ([], s)
      (takeDigits? isAsciiDigit s).map fun taken => ('e' :: sign ++ taken.1, taken.2)
    else some ([], c :: s)
  | [] => some ([], [])

/-- Takes the point and the digits behind it off a text, if there is a point. -/
def takePlaces? : List Char → Option (List Char × List Char)
  | '.' :: s => (takeDigits? isAsciiDigit s).map fun taken => ('.' :: taken.1, taken.2)
  | s => some ([], s)

/-- The double of a decimal number. One that is too great is refused, but not one that is too
small. -/
def float? (text : List Char) : Option Toml :=
  match readFloat? text with
  | some x => if x == 1 / 0 then none else some (.float x)
  | none => none

/-- An integer within 64 bits. -/
def integer? (i : Int) : Option Toml := (int64? i).map fun _ => .integer i

/-- Takes a decimal number off a text, behind its sign. -/
def takeDecimal? (negative : Bool) (s : List Char) : Option (Toml × List Char) := do
  let (whole, s) ← takeWhole? s
  let (places, s) ← takePlaces? s
  let (exponent, s) ← takeExponent? s
  if places.isEmpty && exponent.isEmpty then
    let n : Int := natOfDigits whole
    some (← integer? (if negative then -n else n), s)
  else
    some (← float? ((if negative then ['-'] else []) ++ whole ++ places ++ exponent), s)

/-- Takes a number behind its sign off a text, or the name of what is no number. -/
def takeSigned? (negative : Bool) : List Char → Option (Toml × List Char)
  | 'i' :: 'n' :: 'f' :: rest => some (.float (if negative then -1 / 0 else 1 / 0), rest)
  | 'n' :: 'a' :: 'n' :: rest => some (.float (0 / 0), rest)
  | s => takeDecimal? negative s

/-- Takes an integer in the digits of some base off a text. -/
def takeInBase? (base : Nat) (p : Char → Bool) (s : List Char) : Option (Toml × List Char) := do
  let (digits, s) ← takeDigits? p s
  let n := digits.foldl (fun n d => base * n + natOfHex [d]) 0
  some (← integer? n, s)

/-- Takes a number off a text. -/
def takeNumber? : List Char → Option (Toml × List Char)
  | '+' :: s => takeSigned? false s
  | '-' :: s => takeSigned? true s
  | '0' :: 'x' :: s => takeInBase? 16 Html.isHexDigit s
  | '0' :: 'o' :: s => takeInBase? 8 (fun c => '0' ≤ c && c ≤ '7') s
  | '0' :: 'b' :: s => takeInBase? 2 (fun c => c == '0' || c == '1') s
  | s => takeSigned? false s

/-- Takes a date or a number off a text. -/
def takeDateOrNumber? (s : List Char) : Option (Toml × List Char) :=
  if beginsDay s || beginsTime s then
    (takeDate? s).map fun taken => (.date (String.ofList taken.1), taken.2)
  else takeNumber? s

end Liquid.Toml
