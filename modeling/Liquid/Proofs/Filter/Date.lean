import Liquid.Proofs.Date.Format
import Liquid.Proofs.Date.Moment
import Liquid.Proofs.Filter.Standard

/-!
# The date filter

When a value is written as a date, when it stays as it is, and when there is no result at all.

- `Value.IsClockWord`: the words that stand for the time of a clock, of which nothing is said here.
- `Value.valid_of_moment?`: a value that is a date is a moment that exists.
- `Filter.date_result`: the filter has a result, unless a date is to be written with its time zone.

The filter looks for directives that it does not know, and leaves the value alone if there is one.
It does not look for those that ask for the time zone, and a date has none.
-/

namespace Liquid

open Text DateFormat

/-- The value is a word that stands for the time of a clock, in letters of either case. -/
def Value.IsClockWord (v : Value) : Prop :=
  ∃ s, v = .string s ∧ (trim s.toList).map Char.toLower ∈ ["now".toList, "today".toList]

namespace Value

theorem valid_of_moment? {v : Value} {m : Moment} (h : v.moment? = some m) : m.Valid := by
  unfold moment? at h
  split at h
  · exact (Moment.ofUnixTime?_eq_some_iff.1 h).1
  · dsimp only at h
    split at h
    · exact (Moment.ofUnixTime?_eq_some_iff.1 h).1
    · exact Moment.valid_of_read? h
  · cases h

/-- Only integers and strings are dates. -/
theorem moment?_eq_none {v : Value} (hinteger : ∀ i, v ≠ .integer i)
    (hstring : ∀ s, v ≠ .string s) : v.moment? = none := by
  cases v with
  | integer i => exact absurd rfl (hinteger i)
  | string s => exact absurd rfl (hstring s)
  | _ => rfl

end Value

namespace Filter

variable {value : Value} {arguments : List Value}

/-- Nothing is written without a pattern, and nothing that is no date or has no pattern that can be
read. -/
theorem date_unchanged (h : textArgument arguments 0 = [] ∨ value.moment? = none
    ∨ ∀ items, ¬ Pattern (textArgument arguments 0) items) :
    date value arguments = .ok value := by
  rw [date]
  by_cases hnil : textArgument arguments 0 = []
  · rw [hnil]
    rfl
  · simp only [List.isEmpty_eq_false_iff.2 hnil, Bool.false_eq_true, if_false]
    rcases h.resolve_left hnil with hdate | hpattern
    · rw [hdate]
    · have hparse : parse? (textArgument arguments 0) = none :=
        Option.eq_none_iff_forall_ne_some.2 fun items h => hpattern items (parse?_eq_some_iff.1 h)
      rw [hparse]
      split <;> trivial

section Written

variable {m : Moment} {items : List Item} (hne : textArgument arguments 0 ≠ [])
  (hdate : value.moment? = some m) (hpattern : Pattern (textArgument arguments 0) items)
include hne hdate hpattern

theorem date_of_not_zone (hzone : .zone ∉ items) :
    ∃ texts : List (List Char), items.map (·.write? m) = texts.map some
      ∧ date value arguments = .ok (.ofChars texts.flatten) := by
  obtain ⟨text, htext⟩ := Option.ne_none_iff_exists'.1 (mt (write?_eq_none_iff (m := m)).1 hzone)
  obtain ⟨texts, htexts, rfl⟩ := write?_eq_some_iff.1 htext
  refine ⟨texts, htexts, ?_⟩
  rw [date]
  simp only [List.isEmpty_eq_false_iff.2 hne, Bool.false_eq_true, if_false, hdate,
    parse?_eq_some_iff.2 hpattern, htext]

theorem date_of_zone (hzone : .zone ∈ items) :
    date value arguments = .error .dateWithoutZone := by
  rw [date]
  simp only [List.isEmpty_eq_false_iff.2 hne, Bool.false_eq_true, if_false, hdate,
    parse?_eq_some_iff.2 hpattern, (write?_eq_none_iff (m := m)).2 hzone]

end Written

/-- There is a result unless a date is to be written with its time zone. -/
theorem exists_date_iff : (∃ v, date value arguments = .ok v) ↔
    ¬ ((∃ m, value.moment? = some m) ∧ AsksForZone (textArgument arguments 0)) := by
  constructor
  · rintro ⟨v, hv⟩ ⟨⟨m, hdate⟩, hasks⟩
    obtain ⟨items, hpattern, hzone⟩ := hasks.exists_pattern
    rw [date_of_zone hasks.ne_nil hdate hpattern hzone] at hv
    cases hv
  · intro h
    by_cases hunchanged : textArgument arguments 0 = [] ∨ value.moment? = none
        ∨ ∀ items, ¬ Pattern (textArgument arguments 0) items
    · exact ⟨value, date_unchanged hunchanged⟩
    · simp only [not_or, Classical.not_forall, Classical.not_not, ← ne_eq,
        Option.ne_none_iff_exists'] at hunchanged
      obtain ⟨hne, ⟨m, hdate⟩, items, hpattern⟩ := hunchanged
      have hzone : .zone ∉ items := fun hzone => h ⟨⟨m, hdate⟩, hpattern.zone_mem_iff.1 hzone⟩
      obtain ⟨texts, -, hresult⟩ := date_of_not_zone hne hdate hpattern hzone
      exact ⟨_, hresult⟩

/-- The filter has a result unless the value is a date and the pattern asks for the time zone.
Without a pattern, the value stays as it is, and so do a value that is no date and a date whose
pattern has an unknown directive in it. Every other result is the text of the date, part by part. Of
the integers, those are dates that count up to a moment within the years supported, and to no other.
-/
theorem date_result (value : Value) (arguments : List Value) :
    ¬ value.IsClockWord →
    let result := FilterRegistry.standard.apply "date" value arguments
    let pattern := textArgument arguments 0
    ((arguments = [] ∨ pattern = [] ∨ value.moment? = none ∨ (∀ items, ¬ Pattern pattern items)) →
      result = .ok value)
    ∧ (∀ m items, pattern ≠ [] → value.moment? = some m → Pattern pattern items →
      ¬ AsksForZone pattern → m.Valid ∧ ∃ texts : List (List Char),
        items.map (·.write? m) = texts.map some ∧ result = .ok (.ofChars texts.flatten))
    ∧ ((∃ v, result = .ok v) ↔ ¬ ((∃ m, value.moment? = some m) ∧ AsksForZone pattern))
    ∧ ((∃ e, result = .error e) → result = .error .dateWithoutZone)
    ∧ (∀ i, value = .integer i →
      ((∃ m, value.moment? = some m) ↔ -8334601228800 ≤ i.toInt ∧ i.toInt ≤ 8210266876799)
      ∧ ∀ m, value.moment? = some m ↔
        m.Valid ∧ m.second < 60 ∧ m.nanosecond = 0 ∧ m.unixTime = i.toInt)
    ∧ ((∀ i, value ≠ .integer i) → (∀ s, value ≠ .string s) → value.moment? = none) := by
  intro _ result pattern
  have happly : result = date value arguments :=
    FilterRegistry.apply_standard (by simp) value arguments
  rw [happly]
  refine ⟨fun h => ?_, fun m items hne hdate hpattern hasks => ?_, exists_date_iff, ?_, ?_,
    Value.moment?_eq_none⟩
  · rcases h with rfl | h
    · exact date_unchanged (.inl rfl)
    · exact date_unchanged h
  · exact ⟨Value.valid_of_moment? hdate,
      date_of_not_zone hne hdate hpattern fun hzone => hasks (hpattern.zone_mem_iff.1 hzone)⟩
  · rintro ⟨e, he⟩
    have hnone : ¬ ∃ v, date value arguments = .ok v := by
      rintro ⟨v, hv⟩
      rw [he] at hv
      cases hv
    obtain ⟨⟨m, hdate⟩, hasks⟩ := Classical.not_not.1 (mt exists_date_iff.2 hnone)
    obtain ⟨items, hpattern, hzone⟩ := hasks.exists_pattern
    exact date_of_zone hasks.ne_nil hdate hpattern hzone
  · rintro i rfl
    exact ⟨Moment.exists_ofUnixTime?_iff, fun m => Moment.ofUnixTime?_eq_some_iff⟩

/-- The seconds are counted from the beginning of 1970. -/
theorem date_result_year :
    ¬ Value.IsClockWord (.integer 0)
      ∧ FilterRegistry.standard.apply "date" (.integer 0) [.string "in %Y"]
        = .ok (.string "in 1970") := by
  have hclock : ¬ Value.IsClockWord (.integer 0) := by
    rintro ⟨s, hs, -⟩
    cases hs
  have hyear : Pattern ['%', 'Y'] [.number .year .zero] :=
    Pattern.directive (show Directive ['Y'] _ from .number rfl) .nil
  have hpattern : Pattern "in %Y".toList
      [.literal 'i', .literal 'n', .literal ' ', .number .year .zero] :=
    .literal (by decide) (.literal (by decide) (.literal (by decide) hyear))
  have hzone : ¬ AsksForZone "in %Y".toList := fun hasks =>
    absurd (hpattern.zone_mem_iff.2 hasks) (by decide)
  have hdate : (Value.integer 0).moment? = some ⟨⟨1970, 1, 1⟩, 0, 0, 0, 0⟩ := by decide +kernel
  obtain ⟨-, hwritten, -⟩ := date_result (.integer 0) [.string "in %Y"] hclock
  obtain ⟨-, texts, htexts, hresult⟩ := hwritten _ _ (by decide) hdate hpattern hzone
  have htext : texts = [['i'], ['n'], [' '], ['1', '9', '7', '0']] :=
    (List.map_inj_right fun _ _ => Option.some.inj).1 (htexts.symm.trans (by decide +kernel))
  rw [htext] at hresult
  exact ⟨hclock, hresult⟩

/-- A pattern that can be read, and a date that has no text in it. -/
theorem date_without_zone :
    (∃ items, Pattern "%z".toList items)
      ∧ (∃ m, (Value.string "2024-03-05").moment? = some m)
      ∧ FilterRegistry.standard.apply "date" (.string "2024-03-05") [.string "%z"] =
        .error .dateWithoutZone := by
  have hpattern : Pattern "%z".toList [.zone] :=
    Pattern.directive (show Directive ['z'] _ from .composite rfl) .nil
  have hdate : (Value.string "2024-03-05").moment? = some ⟨⟨2024, 3, 5⟩, 0, 0, 0, 0⟩ := by
    decide +kernel
  refine ⟨⟨_, hpattern⟩, ⟨_, hdate⟩, ?_⟩
  have happly := FilterRegistry.apply_standard (show ("date", date) ∈ _ by simp)
    (.string "2024-03-05") [.string "%z"]
  exact happly.trans (date_of_zone (by decide) hdate hpattern List.mem_cons_self)

end Filter

end Liquid
