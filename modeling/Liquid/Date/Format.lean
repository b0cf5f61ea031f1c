import Liquid.Date.Moment
import Liquid.Decimal.Shortest

/-!
# Date formats

Patterns such as `%Y-%m-%d`, in which a `%` and what follows it stands for a part of a date.

- `DateFormat.Item`: literal text, a number with its padding, a word, or the time zone.
- `DateFormat.parse?`: reads a pattern. `%-d`, `%_d` and `%0d` choose the padding of a number. An
  unknown directive makes the whole pattern invalid.
- `DateFormat.write?`: writes a moment; there is no text for a pattern that asks for the time zone.
-/

namespace Liquid.DateFormat

/-- How a number is filled up to its width. -/
inductive Pad where
  /-- Not at all. -/
  | none
  /-- With zeros behind the sign. -/
  | zero
  /-- With spaces in front. -/
  | space
  deriving DecidableEq, Repr

/-- A part of a date that is a number. -/
inductive Field where
  | year | century | yearOfCentury | isoYear | isoYearOfCentury | quarter | month | day
  | weekFromSunday | weekFromMonday | isoWeek | daysSinceSunday | weekdayFromMonday | ordinal
  | hour | hour12 | minute | second | nanosecond | unixTime
  deriving DecidableEq, Repr

/-- A part of a date that is a word or a fraction of a second. -/
inductive Word where
  | shortMonth | longMonth | shortWeekday | longWeekday | upperHalf | lowerHalf
  /-- The fraction of the second with a point, in three, six or nine digits; nothing if it is
  zero. -/
  | fraction
  /-- A number of digits of the fraction of the second. -/
  | digits (point : Bool) (count : Nat)
  deriving DecidableEq, Repr

/-- A part of a pattern. -/
inductive Item where
  /-- Text that stays as it is. -/
  | literal (c : Char)
  /-- A number. -/
  | number (field : Field) (pad : Pad)
  /-- A word. -/
  | word (w : Word)
  /-- The time zone in any form. -/
  | zone
  deriving DecidableEq, Repr

/-! ### Reading patterns -/

/-- The number that a letter stands for, with its own padding. -/
def number? : Char → Option (Field × Pad)
  | 'Y' => some (.year, .zero)
  | 'C' => some (.century, .zero)
  | 'y' => some (.yearOfCentury, .zero)
  | 'G' => some (.isoYear, .zero)
  | 'g' => some (.isoYearOfCentury, .zero)
  | 'q' => some (.quarter, .none)
  | 'm' => some (.month, .zero)
  | 'd' => some (.day, .zero)
  | 'e' => some (.day, .space)
  | 'U' => some (.weekFromSunday, .zero)
  | 'W' => some (.weekFromMonday, .zero)
  | 'V' => some (.isoWeek, .zero)
  | 'w' => some (.daysSinceSunday, .none)
  | 'u' => some (.weekdayFromMonday, .none)
  | 'j' => some (.ordinal, .zero)
  | 'H' => some (.hour, .zero)
  | 'k' => some (.hour, .space)
  | 'I' => some (.hour12, .zero)
  | 'l' => some (.hour12, .space)
  | 'M' => some (.minute, .zero)
  | 'S' => some (.second, .zero)
  | 'f' => some (.nanosecond, .zero)
  | 's' => some (.unixTime, .none)
  | _ => none

/-- Month, day and short year with slashes. -/
def americanDate : List Item :=
  [.number .month .zero, .literal '/', .number .day .zero, .literal '/',
   .number .yearOfCentury .zero]

/-- Hour and minute. -/
def shortTime : List Item := [.number .hour .zero, .literal ':', .number .minute .zero]

/-- Hour, minute and second. -/
def longTime : List Item := shortTime ++ [.literal ':', .number .second .zero]

/-- What a letter that is no number stands for. -/
def composite? : Char → Option (List Item)
  | 'b' | 'h' => some [.word .shortMonth]
  | 'B' => some [.word .longMonth]
  | 'a' => some [.word .shortWeekday]
  | 'A' => some [.word .longWeekday]
  | 'p' => some [.word .upperHalf]
  | 'P' => some [.word .lowerHalf]
  | 'D' | 'x' => some americanDate
  | 'F' =>
    some [.number .year .zero, .literal '-', .number .month .zero, .literal '-',
      .number .day .zero]
  | 'v' =>
    some [.number .day .space, .literal '-', .word .shortMonth, .literal '-', .number .year .zero]
  | 'R' => some shortTime
  | 'T' | 'X' => some longTime
  | 'r' =>
    some [.number .hour12 .zero, .literal ':', .number .minute .zero, .literal ':',
      .number .second .zero, .literal ' ', .word .upperHalf]
  | 'c' =>
    some ([.word .shortWeekday, .literal ' ', .word .shortMonth, .literal ' ', .number .day .space,
      .literal ' '] ++ longTime ++ [.literal ' ', .number .year .zero])
  | 'z' | 'Z' | '+' => some [.zone]
  | '%' => some [.literal '%']
  | 'n' => some [.literal '\n']
  | 't' => some [.literal '\t']
  | _ => none

/-- A number with a padding chosen for it. -/
def padded? (pad : Pad) (c : Char) : Option (List Item) :=
  (number? c).map fun n => [.number n.1 pad]

/-- The number of digits that a digit in a directive asks for. -/
def digitCount? : Char → Option Nat
  | '3' => some 3
  | '6' => some 6
  | '9' => some 9
  | _ => none

/-- The directive in front of the text behind a `%`, and its length. -/
def directive? : List Char → Option (List Item × Nat)
  | '-' :: c :: _ => (padded? .none c).map (·, 2)
  | '0' :: c :: _ => (padded? .zero c).map (·, 2)
  | '_' :: c :: _ => (padded? .space c).map (·, 2)
  | '#' :: 'z' :: _ | ':' :: 'z' :: _ => some ([.zone], 2)
  | ':' :: ':' :: 'z' :: _ => some ([.zone], 3)
  | ':' :: ':' :: ':' :: 'z' :: _ => some ([.zone], 4)
  | '.' :: 'f' :: _ => some ([.word .fraction], 2)
  | '.' :: c :: 'f' :: _ => (digitCount? c).map fun n => ([.word (.digits true n)], 3)
  | c :: rest =>
    match digitCount? c, rest with
    | some n, 'f' :: _ => some ([.word (.digits false n)], 2)
    | some _, _ => none
    | none, _ =>
      match number? c with
      | some (field, pad) => some ([.number field pad], 1)
      | none => (composite? c).map (·, 1)
  | [] => none

/-- Reads a pattern. -/
def parse? (s : List Char) : Option (List Item) :=
  match s with
  | [] => some []
  | '%' :: rest =>
    match directive? rest with
    | some (items, n) => (parse? (rest.drop n)).map (items ++ ·)
    | none => none
  | c :: rest => (parse? rest).map (.literal c :: ·)
termination_by s.length
decreasing_by all_goals simp only [List.length_drop, List.length_cons]; omega

/-! ### Writing moments -/

/-- A number in at least `width` characters. The sign counts, and a plus sign is written only on
request. -/
def writeWide (pad : Pad) (width : Nat) (plus : Bool) (n : Int) : List Char :=
  let sign := if n < 0 then ['-'] else if plus then ['+'] else []
  let digits := Decimal.digitsOf n.natAbs
  let missing := width - (sign.length + digits.length)
  match pad with
  | .none => sign ++ digits
  | .zero => sign ++ List.replicate missing '0' ++ digits
  | .space => List.replicate missing ' ' ++ sign ++ digits

/-- A year in at least four digits. One that needs more, or is negative, has a sign, which takes
one more place. -/
def writeYear (pad : Pad) (year : Int) : List Char :=
  if 0 ≤ year ∧ year < 10000 then writeWide pad 4 false year else writeWide pad 5 true year

/-- A number below 256 in two characters. The first is as many places behind `0` as there are tens,
also beyond nine of them. -/
def writeTwo (pad : Pad) (n : Nat) : List Char :=
  let place (i : Nat) : Char := Char.ofNat ('0'.toNat + i)
  match n / 10, pad with
  | 0, .none => [place (n % 10)]
  | 0, .space => [' ', place (n % 10)]
  | tens, _ => [place tens, place (n % 10)]

/-- The text of a number of a moment. A century is cut down to eight bits. -/
def Field.write (pad : Pad) (m : Moment) : Field → List Char
  | year => writeYear pad m.date.year
  | century => writeTwo pad (m.date.year / 100 % 256).toNat
  | yearOfCentury => writeTwo pad (m.date.year % 100).toNat
  | isoYear => writeYear pad m.date.isoWeek.1
  | isoYearOfCentury => writeTwo pad (m.date.isoWeek.1 % 100).toNat
  | quarter => Decimal.digitsOf ((m.date.month - 1) / 3 + 1)
  | month => writeTwo pad m.date.month
  | day => writeTwo pad m.date.day
  | weekFromSunday => writeTwo pad (m.date.weekFrom 6)
  | weekFromMonday => writeTwo pad (m.date.weekFrom 0)
  | isoWeek => writeTwo pad m.date.isoWeek.2
  | daysSinceSunday => Decimal.digitsOf ((m.date.weekday + 1) % 7)
  | weekdayFromMonday => Decimal.digitsOf (m.date.weekday + 1)
  | ordinal => writeWide pad 3 false m.date.ordinal
  | hour => writeTwo pad m.hour
  | hour12 => writeTwo pad m.hour12
  | minute => writeTwo pad m.minute
  | second => writeTwo pad m.second
  | nanosecond => writeWide pad 9 false m.nanosecond
  | unixTime => writeWide pad 9 false m.unixTime

/-- The names of the months. -/
def monthNames : List String :=
  ["January", "February", "March", "April", "May", "June", "July", "August", "September",
   "October", "November", "December"]

/-- The names of the days of the week. -/
def weekdayNames : List String :=
  ["Monday", "Tuesday", "Wednesday", "Thursday", "Friday", "Saturday", "Sunday"]

/-- A fraction of a second in a number of digits. -/
def writeFraction (count nanosecond : Nat) : List Char :=
  writeWide .zero count false (nanosecond / Nat.pow 10 (9 - count) : Nat)

/-- The text of a word of a moment. -/
def Word.write (m : Moment) : Word → List Char
  | longMonth => (monthNames.getD (m.date.month - 1) "").toList
  | shortMonth => (monthNames.getD (m.date.month - 1) "").toList.take 3
  | longWeekday => (weekdayNames.getD m.date.weekday "").toList
  | shortWeekday => (weekdayNames.getD m.date.weekday "").toList.take 3
  | upperHalf => if m.isAfternoon then ['P', 'M'] else ['A', 'M']
  | lowerHalf => if m.isAfternoon then ['p', 'm'] else ['a', 'm']
  | fraction =>
    let n := m.nanosecond
    if n = 0 then []
    else '.' :: writeFraction (if n % 1000000 = 0 then 3 else if n % 1000 = 0 then 6 else 9) n
  | digits point count => (if point then ['.'] else []) ++ writeFraction count m.nanosecond

/-- The text of a part of a pattern. -/
def Item.write? (m : Moment) : Item → Option (List Char)
  | literal c => some [c]
  | number field pad => some (field.write pad m)
  | word w => some (w.write m)
  | zone => none

/-- The text of a moment in a pattern that has no time zone in it. -/
def write? (m : Moment) : List Item → Option (List Char)
  | [] => some []
  | item :: rest => do some ((← item.write? m) ++ (← write? m rest))

end Liquid.DateFormat
