import Liquid.Date.Calendar
import Mathlib.Algebra.GroupWithZero.Nat

/-!
# Days and their numbers

Every day has a number, and every number is that of one day.

- `Date.yearLength`, `Date.daysBefore_succ`: how many days a year has, and that the next year begins
  behind them.
- `Date.yearOf_spec`, `Date.eq_of_daysBefore`: a day number lies in one year only.
- `Date.inMonth_spec`, `Date.inMonth_take`: a day of a year lies in one month only.
- `Date.Valid`: what makes a day a day of the calendar; `Date.ofYmd?_eq_some_iff` finds these.
- `Date.dayNumber_ofDayNumber`, `Date.ofDayNumber_dayNumber`: days and numbers in bijection.
- `Date.isSupported_ofDayNumber`: the day numbers of the years supported.
-/

namespace Liquid.Date

/-! ### Years -/

/-- The number of days of a year. -/
def yearLength (year : Int) : Nat := if isLeap year then 366 else 365

theorem isLeap_iff {year : Int} :
    isLeap year = true ↔ year % 4 = 0 ∧ (year % 100 ≠ 0 ∨ year % 400 = 0) := by
  simp [isLeap]

/-- A year begins behind the days of the one in front of it. -/
theorem daysBefore_succ (year : Int) :
    daysBefore (year + 1) = daysBefore year + yearLength year := by
  simp only [daysBefore, yearLength]
  by_cases hleap : isLeap year = true
  · rw [if_pos hleap]
    rw [isLeap_iff] at hleap
    omega
  · rw [if_neg hleap]
    rw [isLeap_iff] at hleap
    omega

theorem daysBefore_mono {year year' : Int} (h : year ≤ year') :
    daysBefore year ≤ daysBefore year' := by
  simp only [daysBefore]
  omega

/-- No day lies in two years. -/
theorem eq_of_daysBefore {year year' : Int} {days days' : Nat} (hdays : days < yearLength year)
    (hdays' : days' < yearLength year') (h : daysBefore year + days = daysBefore year' + days') :
    year = year' ∧ days = days' := by
  have hnext := daysBefore_succ year
  have hnext' := daysBefore_succ year'
  rcases Int.lt_trichotomy year year' with hlt | rfl | hlt
  · have hmono := daysBefore_mono (Int.add_one_le_of_lt hlt)
    omega
  · exact ⟨rfl, by omega⟩
  · have hmono := daysBefore_mono (Int.add_one_le_of_lt hlt)
    omega

section Cycle

variable (cycle : Int) {century four year : Nat} (hcentury : century ≤ 3) (hfour : four ≤ 24)
  (hyear : year ≤ 3)
include hcentury hfour hyear

/-- A year by its place in four hundred years, in a hundred and in four. -/
theorem daysBefore_cycle :
    daysBefore (cycle * 400 + century * 100 + four * 4 + year + 1) =
      cycle * 146097 + century * 36524 + four * 1461 + year * 365 := by
  simp only [daysBefore]
  omega

/-- The fourth year of four is a leap year, unless the four end a hundred years other than the last
one of four hundred. -/
theorem yearLength_cycle :
    yearLength (cycle * 400 + century * 100 + four * 4 + year + 1) =
      if year = 3 ∧ (four = 24 → century = 3) then 366 else 365 := by
  have hleap : isLeap (cycle * 400 + century * 100 + four * 4 + year + 1) = true ↔
      year = 3 ∧ (four = 24 → century = 3) := by
    rw [isLeap_iff]
    omega
  simp only [yearLength, hleap]

end Cycle

/-- Every day number lies in its year. -/
theorem yearOf_spec {n year : Int} {days : Nat} (h : yearOf n = (year, days)) :
    daysBefore year + days = n ∧ days < yearLength year := by
  suffices hspec : daysBefore (yearOf n).1 + (yearOf n).2 = n
      ∧ (yearOf n).2 < yearLength (yearOf n).1 by
    rwa [h] at hspec
  rw [yearOf]
  dsimp only
  generalize hdays : (n % 146097).toNat = days
  generalize hcentury : min 3 (days / 36524) = century
  generalize hdays' : days - century * 36524 = days'
  generalize hfour : days' / 1461 = four
  generalize hdays'' : days' - four * 1461 = days''
  generalize hyear : min 3 (days'' / 365) = year
  -- a hundred years and four years are short by a day, which their last part may have too many
  have hlast : days' < 36524 ∨ century = 3 ∧ days' = 36524 := by omega
  have hfour' : four ≤ 24 := by omega
  rw [daysBefore_cycle _ (by omega) hfour' (by omega),
    yearLength_cycle _ (by omega) hfour' (by omega)]
  refine ⟨by omega, ?_⟩
  split <;> omega

/-! ### Months -/

/-- A day of the months lies in one of them, behind the days of those in front. The induction is on
the months that are left. -/
theorem inMonth_spec {lengths : List Nat} {days : Nat} (h : days < lengths.sum) (month : Nat) :
    ∃ i day, inMonth month lengths days = (month + i, day)
      ∧ ∃ length, lengths[i]? = some length ∧ 1 ≤ day ∧ day ≤ length
        ∧ (lengths.take i).sum + day = days + 1 := by
  induction lengths generalizing month days with
  | nil => cases h
  | cons n rest ih =>
    rw [inMonth]
    by_cases hdays : days < n
    · rw [if_pos hdays]
      exact ⟨0, days + 1, rfl, n, rfl, by omega, hdays, by simp⟩
    · rw [if_neg hdays]
      rw [List.sum_cons] at h
      obtain ⟨i, day, hmonth, length, hlength, hpos, hle, hsum⟩ :=
        ih (show days - n < rest.sum by omega) (month + 1)
      refine ⟨i + 1, day, by rw [hmonth, Nat.add_assoc, Nat.add_comm 1], length, hlength, hpos, hle,
        ?_⟩
      rw [List.take_succ_cons, List.sum_cons]
      omega

/-- No other day of a month has the same place behind the months in front. -/
theorem inMonth_take {lengths : List Nat} {i length day : Nat} (hlength : lengths[i]? = some length)
    (hpos : 1 ≤ day) (hle : day ≤ length) (month : Nat) :
    inMonth month lengths ((lengths.take i).sum + day - 1) = (month + i, day) := by
  induction lengths generalizing month i with
  | nil => cases hlength
  | cons n rest ih =>
    rw [inMonth]
    cases i with
    | zero =>
      cases hlength
      rw [List.take_zero, List.sum_nil, if_pos (by omega)]
      exact Prod.ext rfl (by omega)
    | succ i =>
      rw [List.take_succ_cons, List.sum_cons, if_neg (by omega),
        show n + (rest.take i).sum + day - 1 - n = (rest.take i).sum + day - 1 by omega,
        ih hlength (month + 1)]
      exact Prod.ext (by omega) rfl

theorem length_monthLengths (year : Int) : (monthLengths year).length = 12 := rfl

theorem sum_monthLengths (year : Int) : (monthLengths year).sum = yearLength year := by
  rw [monthLengths, yearLength]
  cases isLeap year <;> rfl

/-! ### Days -/

/-- The day is in the calendar. -/
structure Valid (d : Date) : Prop where
  /-- The month is one of twelve. -/
  month_pos : 1 ≤ d.month
  month_le : d.month ≤ 12
  /-- The month has the day. -/
  day_pos : 1 ≤ d.day
  day_le : d.day ≤ (monthLengths d.year).getD (d.month - 1) 0

/-- A day is found where the calendar has it, within the years supported. -/
theorem ofYmd?_eq_some_iff {year : Int} {month day : Nat} {d : Date} :
    ofYmd? year month day = some d ↔
      d = ⟨year, month, day⟩ ∧ d.Valid ∧ isSupported year = true := by
  rw [ofYmd?, Option.ite_none_right_eq_some, Option.some.injEq]
  simp only [Bool.and_eq_true, decide_eq_true_eq]
  constructor
  · rintro ⟨⟨⟨⟨hyear, hmonth⟩, hday⟩, hle⟩, rfl⟩
    refine ⟨rfl, ⟨hmonth, Nat.le_of_not_lt fun hbehind => ?_, hday, hle⟩, hyear⟩
    -- behind the twelfth month there is none with a day
    dsimp only at hbehind
    have hnone : (monthLengths year)[month - 1]? = none :=
      List.getElem?_eq_none (by rw [length_monthLengths]; omega)
    rw [List.getD_eq_getElem?_getD, hnone, Option.getD_none] at hle
    omega
  · rintro ⟨rfl, hvalid, hyear⟩
    exact ⟨⟨⟨⟨hyear, hvalid.month_pos⟩, hvalid.day_pos⟩, hvalid.day_le⟩, rfl⟩

theorem foldl_add_eq_sum (lengths : List Nat) (day : Nat) :
    lengths.foldl (· + ·) day = lengths.sum + day := by
  induction lengths generalizing day with
  | nil => exact (Nat.zero_add day).symm
  | cons n rest ih => rw [List.foldl_cons, ih, List.sum_cons]; omega

/-- The place of a day in its year: the days of the months in front, and those of its own. -/
theorem ordinal_eq (d : Date) :
    d.ordinal = ((monthLengths d.year).take (d.month - 1)).sum + d.day :=
  foldl_add_eq_sum _ _

theorem Valid.exists_length {d : Date} (h : d.Valid) :
    ∃ length, (monthLengths d.year)[d.month - 1]? = some length ∧ d.day ≤ length := by
  have hin : d.month - 1 < (monthLengths d.year).length := by
    have hpos := h.month_pos
    have hle := h.month_le
    rw [length_monthLengths]
    omega
  have hday := h.day_le
  rw [List.getD_eq_getElem?_getD, List.getElem?_eq_getElem hin, Option.getD_some] at hday
  exact ⟨_, List.getElem?_eq_getElem hin, hday⟩

theorem ofDayNumber_of_yearOf {n year : Int} {days month day : Nat} (h : yearOf n = (year, days))
    (hmonth : inMonth 1 (monthLengths year) days = (month, day)) :
    ofDayNumber n = ⟨year, month, day⟩ := by
  rw [ofDayNumber, h]
  dsimp only
  rw [hmonth]

/-- Every number is that of a day of the calendar. -/
theorem dayNumber_ofDayNumber (n : Int) :
    (ofDayNumber n).Valid ∧ (ofDayNumber n).dayNumber = n := by
  obtain ⟨⟨year, days⟩, hplace⟩ : ∃ place, yearOf n = place := ⟨_, rfl⟩
  obtain ⟨hyear, hdays⟩ := yearOf_spec hplace
  rw [← sum_monthLengths] at hdays
  obtain ⟨i, day, hmonth, length, hlength, hpos, hle, hsum⟩ := inMonth_spec hdays 1
  have hin : i < 12 := (List.getElem?_eq_some_iff.1 hlength).1
  rw [ofDayNumber_of_yearOf hplace hmonth]
  constructor
  · refine ⟨Nat.le_add_right 1 i, by dsimp only; omega, hpos, ?_⟩
    dsimp only
    rwa [Nat.add_sub_cancel_left, List.getD_eq_getElem?_getD, hlength]
  · rw [dayNumber, ordinal_eq]
    dsimp only
    rw [Nat.add_sub_cancel_left, hsum]
    omega

/-- A day of the calendar is the day of its number. -/
theorem ofDayNumber_dayNumber {d : Date} (h : d.Valid) : ofDayNumber d.dayNumber = d := by
  obtain ⟨length, hlength, hle⟩ := h.exists_length
  have hpos := h.day_pos
  have hmonth := h.month_pos
  have hordinal := d.ordinal_eq
  have hdays : d.ordinal - 1 < yearLength d.year := by
    obtain ⟨hin, hget⟩ := List.getElem?_eq_some_iff.1 hlength
    have hsplit := congrArg List.sum (List.take_append_drop (d.month - 1) (monthLengths d.year))
    rw [List.sum_append, List.drop_eq_getElem_cons hin, List.sum_cons, hget, sum_monthLengths]
      at hsplit
    omega
  have hnumber : daysBefore d.year + (d.ordinal - 1 : Nat) = d.dayNumber := by
    rw [dayNumber]
    omega
  obtain ⟨⟨year, days⟩, hplace⟩ : ∃ place, yearOf d.dayNumber = place := ⟨_, rfl⟩
  obtain ⟨hsum, hin⟩ := yearOf_spec hplace
  obtain ⟨rfl, rfl⟩ := eq_of_daysBefore hin hdays (hsum.trans hnumber.symm)
  refine ofDayNumber_of_yearOf hplace ?_
  rw [hordinal, inMonth_take hlength hpos hle 1]
  exact Prod.ext (by dsimp only; omega) rfl

/-- A day number is supported between the first day of the first year and the last day of the last.
-/
theorem isSupported_ofDayNumber (n : Int) :
    isSupported (ofDayNumber n).year = true ↔
      daysBefore firstYear ≤ n ∧ n < daysBefore (lastYear + 1) := by
  obtain ⟨⟨year, days⟩, hplace⟩ : ∃ place, yearOf n = place := ⟨_, rfl⟩
  obtain ⟨hsum, hin⟩ := yearOf_spec hplace
  have hnext := daysBefore_succ year
  have hyear : (ofDayNumber n).year = year := by rw [ofDayNumber, hplace]
  rw [hyear, isSupported, Bool.and_eq_true, decide_eq_true_eq, decide_eq_true_eq]
  constructor
  · rintro ⟨hfirst, hlast⟩
    have hlow := daysBefore_mono hfirst
    have hhigh := daysBefore_mono (Int.add_le_add_right hlast 1)
    omega
  · rintro ⟨hfirst, hlast⟩
    refine ⟨Int.not_lt.1 fun hlt => ?_, Int.not_lt.1 fun hlt => ?_⟩
    · have hlow := daysBefore_mono (Int.add_one_le_of_lt hlt)
      omega
    · have hhigh := daysBefore_mono (Int.add_one_le_of_lt hlt)
      omega

end Liquid.Date
