import Liquid.Date.Reader
import Liquid.Proofs.Date.Calendar

/-!
# Moments that exist

Every moment that is read is a day of the calendar with a time of that day.

- `Moment.Valid`: the fields of a moment are in their ranges.
- `Moment.ofUnixTime?_eq_some_iff`: a number of seconds is that of one moment only.
- `Moment.exists_ofUnixTime?_iff`: the numbers that are those of a moment.
- `Moment.valid_of_read?`: the moments that texts are read as.
-/

namespace Liquid.Moment

/-- The day is in the calendar and in a year that is supported, and has the time. -/
structure Valid (m : Moment) : Prop where
  date : m.date.Valid
  year : Date.isSupported m.date.year = true
  hour : m.hour < 24
  minute : m.minute < 60
  /-- The second sixty is a leap second. -/
  second : m.second ≤ 60
  nanosecond : m.nanosecond < 1000000000

theorem ofFields?_eq_some_iff {date : Date} {hour minute second nanosecond : Nat} {m : Moment} :
    ofFields? date hour minute second nanosecond = some m ↔
      m = ⟨date, hour, minute, second, nanosecond⟩ ∧ hour < 24 ∧ minute < 60 ∧ second ≤ 60
        ∧ nanosecond < 1000000000 := by
  rw [ofFields?, Option.ite_none_right_eq_some, Option.some.injEq]
  simp only [Bool.and_eq_true, decide_eq_true_eq, and_assoc]
  constructor
  · rintro ⟨hhour, hminute, hsecond, hnanosecond, rfl⟩
    exact ⟨rfl, hhour, hminute, hsecond, hnanosecond⟩
  · rintro ⟨rfl, hhour, hminute, hsecond, hnanosecond⟩
    exact ⟨hhour, hminute, hsecond, hnanosecond, rfl⟩

/-! ### Seconds -/

/-- A number of seconds stands for the moment that it counts up to, if this is in a year supported.
No number is that of a leap second or of a fraction of one. -/
theorem ofUnixTime?_eq_some_iff {seconds : Int} {m : Moment} :
    ofUnixTime? seconds = some m ↔
      m.Valid ∧ m.second < 60 ∧ m.nanosecond = 0 ∧ m.unixTime = seconds := by
  rw [ofUnixTime?]
  obtain ⟨hdate, hnumber⟩ := Date.dayNumber_ofDayNumber (seconds / 86400 + epochDay)
  constructor
  · intro h
    obtain ⟨hyear, heq⟩ := Option.ite_none_right_eq_some.1 h
    cases heq
    refine ⟨⟨hdate, hyear, ?_, ?_, ?_, Nat.zero_lt_succ _⟩, ?_, rfl, ?_⟩
    · dsimp only
      omega
    · dsimp only
      omega
    · dsimp only
      omega
    · dsimp only
      omega
    · rw [unixTime, hnumber]
      dsimp only
      omega
  · rintro ⟨hvalid, hsecond, hnanosecond, rfl⟩
    have hhour := hvalid.hour
    have hminute := hvalid.minute
    -- the time of the day is less than a day
    have hday : m.unixTime / 86400 + epochDay = m.date.dayNumber := by
      rw [unixTime]
      omega
    have htime : (m.unixTime % 86400).toNat = m.hour * 3600 + m.minute * 60 + m.second := by
      rw [unixTime]
      omega
    rw [hday, htime, Date.ofDayNumber_dayNumber hvalid.date, if_pos hvalid.year]
    obtain ⟨date, hour, minute, second, nanosecond⟩ := m
    dsimp only at *
    simp only [Option.some.injEq, mk.injEq, true_and]
    omega

/-- The first and the last number of seconds that stand for a moment. -/
theorem exists_ofUnixTime?_iff {seconds : Int} :
    (∃ m, ofUnixTime? seconds = some m) ↔ -8334601228800 ≤ seconds ∧ seconds ≤ 8210266876799 := by
  have hfirst : Date.daysBefore Date.firstYear = -95746130 := by decide
  have hlast : Date.daysBefore (Date.lastYear + 1) = 95745399 := by decide
  have hdays := Date.isSupported_ofDayNumber (seconds / 86400 + epochDay)
  rw [hfirst, hlast, epochDay] at hdays
  have hrange : Date.isSupported (Date.ofDayNumber (seconds / 86400 + epochDay)).year = true ↔
      -8334601228800 ≤ seconds ∧ seconds ≤ 8210266876799 := by
    rw [epochDay, hdays]
    omega
  rw [← hrange]
  constructor
  · rintro ⟨m, h⟩
    exact (Option.ite_none_right_eq_some.1 h).1
  · exact fun h => ⟨_, if_pos h⟩

/-! ### Texts -/

/-- What is read, if anything is, is a moment that exists. -/
def Sound (x : Option Moment) : Prop := ∀ m, x = some m → m.Valid

theorem sound_none : Sound none := by
  intro m hm
  cases hm

theorem Sound.bind {α : Type} {x : Option α} {f : α → Option Moment}
    (h : ∀ a, x = some a → Sound (f a)) : Sound (x >>= f) := by
  intro m hm
  obtain ⟨a, ha, hf⟩ := Option.bind_eq_some_iff.1 hm
  exact h a ha m hf

theorem sound_ofFields? {date : Date} (hdate : date.Valid ∧ Date.isSupported date.year = true)
    (hour minute second nanosecond : Nat) :
    Sound (ofFields? date hour minute second nanosecond) := by
  intro m hm
  obtain ⟨rfl, hhour, hminute, hsecond, hnanosecond⟩ := ofFields?_eq_some_iff.1 hm
  exact ⟨hdate.1, hdate.2, hhour, hminute, hsecond, hnanosecond⟩

theorem exists_of_ofYmd? {year : Int} {month day : Nat} {date : Date}
    (h : Date.ofYmd? year month day = some date) :
    date.Valid ∧ Date.isSupported date.year = true := by
  obtain ⟨rfl, hvalid, hyear⟩ := Date.ofYmd?_eq_some_iff.1 h
  exact ⟨hvalid, hyear⟩

/-- Whatever is read in front, the last steps look for the day in the calendar and for the time in
the day. -/
theorem sound_ofInternet? (s : List Char) : Sound (ofInternet? s) := by
  have hlast : ∀ (year : Int) (month day hour minute second nanosecond : Nat),
      Sound (Date.ofYmd? year month day >>= fun date =>
        ofFields? date hour minute second nanosecond) :=
    fun year month day hour minute second nanosecond =>
      .bind fun date hdate => sound_ofFields? (exists_of_ofYmd? hdate) hour minute second nanosecond
  unfold ofInternet?
  repeat' first
    | exact hlast _ _ _ _ _ _ _
    | exact sound_none
    | split
    | refine .bind fun _ _ => ?_

theorem sound_onDate? {date : Date} (hdate : date.Valid ∧ Date.isSupported date.year = true)
    (s : List Char) : Sound (onDate? date s) := by
  unfold onDate?
  repeat' first
    | exact sound_ofFields? hdate _ _ _ _
    | exact sound_none
    | split
    | refine .bind fun _ _ => ?_

theorem exists_of_date? {s : List Char} {found : Date × List Char} (h : date? s = some found) :
    found.1.Valid ∧ Date.isSupported found.1.year = true := by
  rw [date?] at h
  simp only [Option.bind_eq_bind, Option.bind_eq_some_iff] at h
  obtain ⟨_, -, _, -, _, -, _, -, _, -, date, hdate, hfound⟩ := h
  cases hfound
  exact exists_of_ofYmd? hdate

theorem sound_ofCivil? (s : List Char) : Sound (ofCivil? s) := by
  unfold ofCivil?
  refine .bind fun found hfound => ?_
  have hdate := exists_of_date? hfound
  obtain ⟨date, rest⟩ := found
  dsimp only at hdate ⊢
  split
  · intro m hm
    cases hm
    exact ⟨hdate.1, hdate.2, Nat.zero_lt_succ _, Nat.zero_lt_succ _, Nat.zero_le _,
      Nat.zero_lt_succ _⟩
  · exact sound_onDate? hdate _
  · exact sound_onDate? hdate _

/-- Every text that is read is read as a moment that exists. -/
theorem valid_of_read? {s : List Char} {m : Moment} (h : read? s = some m) : m.Valid := by
  rw [read?] at h
  cases hstrict : ofInternet? s with
  | some found =>
    rw [hstrict] at h
    cases h
    exact sound_ofInternet? s m hstrict
  | none =>
    rw [hstrict] at h
    exact sound_ofCivil? s m h

end Liquid.Moment
