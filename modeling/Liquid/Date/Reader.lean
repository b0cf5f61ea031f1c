import Liquid.Date.Moment
import Liquid.Decimal.Reader
import Liquid.Text.Blank
import Liquid.Text.Search

/-!
# Reading dates

- `Moment.ofInternet?`: the strict form of dates on the internet, as `2024-03-05T14:30:00Z` or with
  an offset. The time is the local one; the offset is checked and forgotten.
- `Moment.ofCivil?`: `2024-03-05 14:30:00`, also with a `T`, or the day alone. Fields may be short
  and have blanks in front.
- `Moment.read?`: a text in any of these forms.
-/

namespace Liquid.Moment

open Liquid.Text
open Liquid.Decimal (natOfDigits)

/-- Takes ASCII digits off a text, at least `least` and at most `most` of them. -/
def digits? (least most : Nat) (s : List Char) : Option (Nat × List Char) :=
  let digits := (s.take most).takeWhile isAsciiDigit
  if digits.length < least then none else some (natOfDigits digits, s.drop digits.length)

/-! ### The strict form -/

/-- Takes a fraction of a second off a text, if there is one. Digits after the ninth are read and
forgotten. -/
def fraction? : List Char → Option (Nat × List Char)
  | '.' :: s => do
    let (n, rest) ← digits? 1 9 s
    some (n * Nat.pow 10 (9 - (s.length - rest.length)), rest.dropWhile isAsciiDigit)
  | s => some (0, s)

/-- Takes an offset off a text: `Z`, or a sign, hours and minutes, less than a day in all. -/
def offset? : List Char → Option (List Char)
  | 'Z' :: s | 'z' :: s => some s
  | sign :: s => do
    if sign ≠ '+' ∧ sign ≠ '-' ∧ sign ≠ '−' then none
    let (hours, s) ← digits? 2 2 s
    let s ← after? [':'] s
    let (minutes, s) ← digits? 2 2 s
    if hours < 24 ∧ minutes < 60 then some s else none
  | [] => none

/-- Reads the strict form. -/
def ofInternet? (s : List Char) : Option Moment := do
  let (year, s) ← digits? 4 4 s
  let s ← after? ['-'] s
  let (month, s) ← digits? 2 2 s
  let s ← after? ['-'] s
  let (day, s) ← digits? 2 2 s
  let s ← match s with
    | 'T' :: s | 't' :: s | ' ' :: s => some s
    | _ => none
  let (hour, s) ← digits? 2 2 s
  let s ← after? [':'] s
  let (minute, s) ← digits? 2 2 s
  let s ← after? [':'] s
  let (second, s) ← digits? 2 2 s
  let (nanosecond, s) ← fraction? s
  let s ← offset? s
  if s ≠ [] then none
  ofFields? (← Date.ofYmd? year month day) hour minute second nanosecond

/-! ### The loose forms -/

/-- Takes a year off a text. With a sign it may have any number of digits, without one four. -/
def year? (s : List Char) : Option (Int × List Char) :=
  match trimStart s with
  | '-' :: s => (digits? 1 s.length s).map fun r => (-(r.1 : Int), r.2)
  | '+' :: s => (digits? 1 s.length s).map fun r => ((r.1 : Int), r.2)
  | s => (digits? 1 4 s).map fun r => ((r.1 : Int), r.2)

/-- Takes a field of one digit or two off a text. -/
def field? (s : List Char) : Option (Nat × List Char) := digits? 1 2 (trimStart s)

/-- Takes a day off a text. -/
def date? (s : List Char) : Option (Date × List Char) := do
  let (year, s) ← year? s
  let s ← after? ['-'] s
  let (month, s) ← field? s
  let s ← after? ['-'] s
  let (day, s) ← field? s
  some (← Date.ofYmd? year month day, s)

/-- Reads a time of day, up to the end of the text. -/
def onDate? (date : Date) (s : List Char) : Option Moment := do
  let (hour, s) ← field? s
  let s ← after? [':'] s
  let (minute, s) ← field? s
  let s ← after? [':'] s
  let (second, s) ← field? s
  if s ≠ [] then none
  ofFields? date hour minute second 0

/-- Reads a day with a time of day or without one, which is the beginning of the day. -/
def ofCivil? (s : List Char) : Option Moment := do
  let (date, s) ← date? s
  match s with
  | [] => some ⟨date, 0, 0, 0, 0⟩
  | 'T' :: s => onDate? date s
  | s => onDate? date s

/-- Reads a date in one of the forms. -/
def read? (s : List Char) : Option Moment := ofInternet? s <|> ofCivil? s

end Liquid.Moment
