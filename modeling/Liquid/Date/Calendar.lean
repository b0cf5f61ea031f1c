/-!
# The calendar

Days of the Gregorian calendar, carried on in both directions without end, with a year zero.

- `Date`: a year, a month and a day.
- `Date.dayNumber`, `Date.ofDayNumber`: days counted from the first day of the year one, a Monday.
- `Date.ordinal`, `Date.weekday`, `Date.weekFrom`, `Date.isoWeek`: the place of a day in its year
  and week.
- `Date.ofYmd?`: the day of a year, month and day, if there is one within the years supported.
-/

namespace Liquid

/-- A day of the calendar. -/
structure Date where
  /-- The year; the year zero is the one before the year one. -/
  year : Int
  /-- The month, from one to twelve. -/
  month : Nat
  /-- The day of the month, from one on. -/
  day : Nat
  deriving DecidableEq, Repr

namespace Date

/-- Every fourth year is a leap year, but of the hundredth ones only every fourth. -/
def isLeap (year : Int) : Bool := year % 4 == 0 && (year % 100 != 0 || year % 400 == 0)

/-- The lengths of the months of a year. -/
def monthLengths (year : Int) : List Nat :=
  [31, if isLeap year then 29 else 28, 31, 30, 31, 30, 31, 31, 30, 31, 30, 31]

/-- The first year supported. -/
def firstYear : Int := -262143

/-- The last year supported. -/
def lastYear : Int := 262142

/-- Whether a year is supported. -/
def isSupported (year : Int) : Bool := firstYear ≤ year && year ≤ lastYear

/-- The day of a year, month and day. -/
def ofYmd? (year : Int) (month day : Nat) : Option Date :=
  if isSupported year && 1 ≤ month && 1 ≤ day && day ≤ (monthLengths year).getD (month - 1) 0 then
    some ⟨year, month, day⟩
  else none

/-- The place of a day in its year, from one on. -/
def ordinal (d : Date) : Nat := ((monthLengths d.year).take (d.month - 1)).foldl (· + ·) d.day

/-- The days of all years from the year one to the one before `year`; negative before. -/
def daysBefore (year : Int) : Int :=
  let y := year - 1
  365 * y + y / 4 - y / 100 + y / 400

/-- The number of days since the first one of the year one. -/
def dayNumber (d : Date) : Int := daysBefore d.year + d.ordinal - 1

/-- The month and the day of the month for a number of days since the year began. `month` is the
first of the months in `lengths`. -/
def inMonth (month : Nat) : (lengths : List Nat) → (days : Nat) → Nat × Nat
  | [], days => (month, days + 1)
  | n :: rest, days => if days < n then (month, days + 1) else inMonth (month + 1) rest (days - n)

/-- The year of a day number and the number of days since that year began. Four hundred years have
146097 days, one hundred 36524 or one more, and four 1461 or one less. -/
def yearOf (n : Int) : Int × Nat :=
  let days := (n % 146097).toNat
  let century := min 3 (days / 36524)
  let days := days - century * 36524
  let four := days / 1461
  let days := days - four * 1461
  let year := min 3 (days / 365)
  (n / 146097 * 400 + century * 100 + four * 4 + year + 1, days - year * 365)

/-- The day of a day number. -/
def ofDayNumber (n : Int) : Date :=
  let (year, days) := yearOf n
  let (month, day) := inMonth 1 (monthLengths year) days
  ⟨year, month, day⟩

/-- The day of the week; zero is Monday. -/
def weekday (d : Date) : Nat := (d.dayNumber % 7).toNat

/-- The number of the week in the year, if weeks begin with a day of the week and the days in front
of the first such day are in week zero. -/
def weekFrom (first : Nat) (d : Date) : Nat :=
  (d.ordinal + 6 - (d.weekday + 7 - first) % 7) / 7

/-- The year and the number of the week, if weeks begin with a Monday and belong to the year that
their Thursday lies in. -/
def isoWeek (d : Date) : Int × Nat :=
  let thursday := ofDayNumber (d.dayNumber - d.weekday + 3)
  (thursday.year, (thursday.ordinal - 1) / 7 + 1)

end Date

end Liquid
