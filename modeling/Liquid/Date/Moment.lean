import Liquid.Date.Calendar

/-!
# Moments

A day with a time of day, without a time zone.

- `Moment`: the day and the time, to the nanosecond. The second sixty is a leap second.
- `Moment.ofUnixTime?`, `Moment.unixTime`: seconds since the beginning of the year 1970, without
  leap seconds.
-/

namespace Liquid

/-- A day and a time of day. -/
structure Moment where
  /-- The day. -/
  date : Date
  /-- The hour, up to 23. -/
  hour : Nat
  /-- The minute, up to 59. -/
  minute : Nat
  /-- The second, up to 59, or 60 for a leap second. -/
  second : Nat
  /-- The nanosecond. -/
  nanosecond : Nat
  deriving DecidableEq, Repr

namespace Moment

/-- The moment of a day and a time of day, if there is that time. -/
def ofFields? (date : Date) (hour minute second nanosecond : Nat) : Option Moment :=
  if hour < 24 && minute < 60 && second ≤ 60 && nanosecond < 1000000000 then
    some ⟨date, hour, minute, second, nanosecond⟩
  else none

/-- The number of the first day of 1970. -/
def epochDay : Int := 719162

/-- The moment so many seconds after the beginning of 1970, within the years supported. -/
def ofUnixTime? (seconds : Int) : Option Moment :=
  let date := Date.ofDayNumber (seconds / 86400 + epochDay)
  let time := (seconds % 86400).toNat
  if Date.isSupported date.year then
    some ⟨date, time / 3600, time / 60 % 60, time % 60, 0⟩
  else none

/-- The seconds since the beginning of 1970. A leap second counts as the one in front of it. -/
def unixTime (m : Moment) : Int :=
  (m.date.dayNumber - epochDay) * 86400 + m.hour * 3600 + m.minute * 60 + min m.second 59

/-- The hour on a clock with twelve of them. -/
def hour12 (m : Moment) : Nat := if m.hour % 12 = 0 then 12 else m.hour % 12

/-- Whether the time is noon or later. -/
def isAfternoon (m : Moment) : Bool := 12 ≤ m.hour

end Moment

end Liquid
