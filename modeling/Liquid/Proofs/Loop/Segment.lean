import Liquid.Loop

/-!
# Parts of what a loop goes over

A list is cut item by item, and a range by its bounds. Up to the number of items that is counted,
this is the same.

- `LoopHeader.count_ofNat`: a position that is remembered is found again.
- `LoopItems.toInt_part`, `LoopItems.segment_range`: a range is cut within its bounds.
- `LoopItems.length_values_segment`: what is cut out of the items of a loop has as many of them as
  it says.
- `LoopItems.values_segment`: a segment is the items from one position to another.
- `LoopHeader.offset_congr`, `LoopHeader.limit?_congr`: which part that is depends on the values of
  the options alone.
-/

namespace Liquid

/-- The greatest position that can be remembered. -/
def LoopHeader.maxPosition : Nat := 0x7FFFFFFFFFFFFFFF

theorem LoopHeader.count_ofNat {n : Nat} (h : n ≤ maxPosition) :
    count (Value.ofNat n).asInteger? = n := by
  have hmin : min n 0x7FFFFFFFFFFFFFFF = n := Nat.min_eq_left h
  have hint : (Int64.ofInt (n : Nat)).toInt = n :=
    Int64.toInt_ofInt_of_le (by omega) (by rw [maxPosition] at h; omega)
  rw [count, Value.ofNat, hmin]
  show (Int64.ofInt (n : Nat)).toInt.toNat = n
  rw [hint, Int.toNat_natCast]

/-- No position is greater than those that can be remembered. -/
theorem LoopHeader.count_le (i : Option Int64) : count i ≤ maxPosition := by
  have h := Int64.toInt_lt (i.getD 0)
  rw [count, maxPosition]
  omega

namespace LoopItems

variable {items : LoopItems}

/-- The items of a range are those from its first to its last. -/
theorem length_values_range (reversed : Bool) (first last : Int64) :
    ((range first last).values reversed).length = (last.toInt - first.toInt + 1).toNat := by
  rw [values_range, List.length_map, List.length_range]

theorem length_eq_of_le (h : (items.values false).length ≤ maxLength) :
    items.length = (items.values false).length := by
  cases items with
  | list values => rfl
  | range first last =>
    rw [length_values_range] at h ⊢
    exact Nat.min_eq_left h

/-- The bounds of a part of a range lie in the range, and so they need no more than 64 bits. -/
theorem toInt_part {first last : Int64} {skip count : Nat} (hcount : count ≠ 0)
    (h : skip + count ≤ (last.toInt - first.toInt + 1).toNat) :
    (Int64.ofInt (first.toInt + skip)).toInt = first.toInt + skip
      ∧ (Int64.ofInt (first.toInt + skip + count - 1)).toInt = first.toInt + skip + count - 1 := by
  have hlow := first.le_toInt
  have hhigh := last.toInt_lt
  exact ⟨Int64.toInt_ofInt_of_le (by omega) (by omega),
    Int64.toInt_ofInt_of_le (by omega) (by omega)⟩

/-- Counted from `skip` on, `count` of the integers that a range counts are those of a range. -/
theorem values_range_part {first last : Int64} {skip count : Nat} (hcount : count ≠ 0)
    (h : skip + count ≤ ((range first last).values false).length) :
    (range (Int64.ofInt (first.toInt + skip))
        (Int64.ofInt (first.toInt + skip + count - 1))).values false =
      (((range first last).values false).drop skip).take count := by
  rw [length_values_range] at h
  obtain ⟨hfirst, hlast⟩ := toInt_part hcount h
  have hlength : (first.toInt + skip + count - 1 - (first.toInt + skip) + 1).toNat = count := by
    omega
  rw [values_range, values_range, hfirst, hlast, hlength]
  refine List.ext_getElem ?_ fun i hi hi' => ?_
  · simp only [List.length_map, List.length_range, List.length_take, List.length_drop]
    omega
  · simp only [List.getElem_map, List.getElem_range, List.getElem_take, List.getElem_drop,
      Bool.false_eq_true, if_false]
    congr 2
    omega

/-- Where a segment that begins at `start` ends. -/
def stop (start length : Nat) : (limit : Option Nat) → Nat
  | some limit => min (start + limit) length
  | none => length

theorem stop_sub (start length : Nat) :
    (∀ limit, stop start length (some limit) - min start length =
        min limit (length - min start length))
      ∧ stop start length none - min start length = length - min start length := by
  refine ⟨fun limit => ?_, rfl⟩
  rw [stop]
  omega

theorem segment_list (values : List Value) (start : Nat) (limit : Option Nat) :
    (list values).segment start limit =
      let skip := min start values.length
      list ((values.drop skip).take (stop start values.length limit - skip)) := by
  obtain ⟨hsome, hnone⟩ := stop_sub start values.length
  cases limit with
  | some limit =>
    simp only [hsome]
    rfl
  | none =>
    simp only [hnone]
    rfl

theorem segment_range_eq {first last : Int64} {start skip count : Nat} {limit : Option Nat}
    (hskip : min start (range first last).length = skip)
    (hcount : stop start (range first last).length limit - skip = count) :
    (range first last).segment start limit =
      if count = 0 then range 1 0
      else
        range (Int64.ofInt (first.toInt + skip))
          (Int64.ofInt (first.toInt + skip + count - 1)) := by
  obtain ⟨hsome, hnone⟩ := stop_sub start (range first last).length
  subst hskip hcount
  cases limit with
  | some limit =>
    rw [hsome]
    rfl
  | none =>
    rw [hnone]
    rfl

theorem stop_le (start length : Nat) (limit : Option Nat) : stop start length limit ≤ length := by
  cases limit with
  | some limit => exact Nat.min_le_right _ _
  | none => exact Nat.le_refl _

/-- The part of a range that is left has its bounds within those of the range, and the number of its
items is the least of those that are left and the limit. -/
theorem segment_range (first last : Int64) (start : Nat) (limit : Option Nat) :
    ∃ first' last' : Int64, (range first last).segment start limit = range first' last'
      ∧ (first'.toInt ≤ last'.toInt → first.toInt ≤ first'.toInt ∧ last'.toInt ≤ last.toInt)
      ∧ (last'.toInt - first'.toInt + 1).toNat ≤ maxLength := by
  generalize hskip : min start (range first last).length = skip
  generalize hcount : stop start (range first last).length limit - skip = count
  have hstop := stop_le start (range first last).length limit
  have hlength : (range first last).length =
      min (last.toInt - first.toInt + 1).toNat maxLength := rfl
  rw [segment_range_eq hskip hcount]
  by_cases hzero : count = 0
  · rw [if_pos hzero]
    exact ⟨1, 0, rfl, fun h => absurd h (by decide), by decide⟩
  · rw [if_neg hzero]
    have hfits : skip + count ≤ (last.toInt - first.toInt + 1).toNat := by omega
    obtain ⟨hfirst, hlast⟩ := toInt_part hzero hfits
    refine ⟨_, _, rfl, ?_, ?_⟩
    · rw [hfirst, hlast]
      omega
    · rw [hfirst, hlast]
      omega

/-- What is cut out of the items of a loop has as many of them as it says. -/
theorem length_values_segment (items : LoopItems) (start : Nat) (limit : Option Nat)
    (reversed : Bool) :
    ((items.segment start limit).values reversed).length = (items.segment start limit).length := by
  cases items with
  | list items =>
    cases reversed with
    | false => rfl
    | true => exact List.length_reverse
  | range first last =>
    obtain ⟨first', last', hsegment, -, hlength⟩ := segment_range first last start limit
    rw [hsegment, length_values_range]
    exact (Nat.min_eq_left hlength).symm

theorem drop_take_min {α : Type} (items : List α) (start stop : Nat) :
    (items.drop (min start items.length)).take (stop - min start items.length) =
      items.extract start stop := by
  rw [List.extract_eq_take_drop]
  by_cases hstart : start ≤ items.length
  · rw [Nat.min_eq_left hstart]
  · rw [Nat.min_eq_right (Nat.le_of_not_le hstart), List.drop_length,
      List.drop_eq_nil_of_le (Nat.le_of_not_le hstart), List.take_nil, List.take_nil]

/-- A segment is the items from its position to the one that the limit leaves, or to the last, where
all items are counted. -/
theorem values_segment_of_length (hlength : items.length = (items.values false).length)
    (start : Nat) (limit : Option Nat) :
    (items.segment start limit).values false =
      (items.values false).extract start (stop start (items.values false).length limit) := by
  rw [← drop_take_min]
  cases items with
  | list values =>
    rw [segment_list]
    rfl
  | range first last =>
    generalize hskip : min start ((range first last).values false).length = skip
    generalize hcount : stop start ((range first last).values false).length limit - skip = count
    have hstop := stop_le start ((range first last).values false).length limit
    rw [segment_range_eq (hlength ▸ hskip) (hlength ▸ hcount)]
    by_cases hzero : count = 0
    · rw [if_pos hzero, hzero, List.take_zero]
      rfl
    · rw [if_neg hzero]
      exact values_range_part hzero (by omega)

theorem values_segment (h : (items.values false).length ≤ maxLength) (start : Nat)
    (limit : Option Nat) :
    (items.segment start limit).values false =
      (items.values false).extract start (stop start (items.values false).length limit) :=
  values_segment_of_length (length_eq_of_le h) start limit

end LoopItems

/-! ### Options -/

namespace LoopHeader

variable {header header' : LoopHeader} {c d : Context}
  (hattributes : header'.attributes = header.attributes)
  (hoptions : ∀ option e, Keyed.get? option header.attributes = some (.expression e) →
    e.evaluate c = e.evaluate d)

include hattributes hoptions

theorem integer?_congr (option : String) :
    header.integer? option c = header'.integer? option d := by
  rw [integer?, integer?, hattributes]
  cases hoption : Keyed.get? option header.attributes with
  | none => rfl
  | some value =>
    cases value with
    | expression e => exact congrArg Value.asInteger? (hoptions option e hoption)
    | resume => rfl

theorem limit?_congr : header.limit? c = header'.limit? d := by
  rw [limit?, limit?, hattributes, integer?_congr hattributes hoptions]

theorem columns?_congr : header.columns? c = header'.columns? d := by
  rw [columns?, columns?, integer?_congr hattributes hoptions]

/-- What is remembered of a loop matters only where it goes on from there. -/
theorem offset_congr (hresume : Keyed.get? "offset" header.attributes = some .resume →
    c.registerEntry bookmarks header.name = d.registerEntry bookmarks header'.name) :
    header.offset c = header'.offset d := by
  rw [offset, offset, hattributes]
  split
  · next hoffset => rw [hresume hoffset]
  · rw [integer?_congr hattributes hoptions]

end LoopHeader

end Liquid
