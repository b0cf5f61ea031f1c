import Liquid.Proofs.Loop.Segment
import Liquid.Proofs.Template.Defined
import Liquid.Template.Render
import Liquid.Filter.List
import Liquid.Filter.Text

/-!
# Steps of rendering that could be undefined

Rendering takes remainders, subtracts positions from lengths, and takes parts of lists. None of
these is without a result where rendering comes to it, whatever the registers and the data hold.

- `LoopItems.renderEach_congr`: the number of an iteration is below that of the items.
- `RendersWithin`: all of this in one statement, `rendersWithin` its proof.
-/

namespace Liquid

open Rendering

/-! ### Loops -/

theorem Rendering.each_congr {α : Type} {f g : α → Rendering} {items : List α}
    (h : ∀ x ∈ items, f x = g x) : each f items = each g items := by
  have hbehind : ∀ before, eachBehind f items before = eachBehind g items before := by
    induction items with
    | nil => exact fun _ => rfl
    | cons x rest ih =>
      intro before
      funext c
      have hrest := ih fun y hy => h y (List.mem_cons_of_mem x hy)
      simp only [eachBehind, h x List.mem_cons_self, hrest]
  exact hbehind ""

/-- The number of an iteration is below that of the items. -/
theorem LoopItems.renderEach_congr {items : LoopItems} {start : Nat} {limit : Option Nat}
    {reversed : Bool} {f g : Value → Nat → Rendering}
    (h : ∀ v i, i < (items.segment start limit).length → f v i = g v i) :
    (items.segment start limit).renderEach reversed f =
      (items.segment start limit).renderEach reversed g := by
  rw [renderEach_eq_each, renderEach_eq_each]
  refine each_congr fun item hitem => h item.1 item.2 ?_
  have hindex := List.snd_lt_of_mem_zipIdx hitem
  rw [length_values_segment] at hindex
  exact hindex

/-! ### Filters -/

theorem add_le_of_sliceBounds? {length first n : Nat} {start count : Int}
    (h : sliceBounds? length start count = some (first, n)) : first + n ≤ length := by
  unfold sliceBounds? at h
  extract_lets first' at h
  split at h
  · cases h
  · rw [Option.some.injEq, Prod.mk.injEq] at h
    obtain ⟨rfl, rfl⟩ := h
    omega

/-! ### All of them -/

/-- Where rendering divides, subtracts or takes a part of a list, it can. -/
structure RendersWithin : Prop where
  /-- A cycle has values, and its position is that of one of them, whatever the register holds. -/
  position : ∀ (cycle : Cycle) (c : Context), 0 < cycle.values.length
    ∧ cycle.values[cycle.position c]? = some (cycle.values.getD (cycle.position c) cycle.first)
  /-- The items that a loop goes over are a part of those of its list. -/
  segment : ∀ (items : List Value) (start : Nat) (limit : Option Nat),
    ∃ first last part, part? items first last = some part
      ∧ (LoopItems.list items).segment start limit = .list part
  /-- So are those of a range, and its bounds need no more than 64 bits. -/
  range : ∀ (first last : Int64) (start : Nat) (limit : Option Nat),
    ∃ first' last' : Int64,
      (LoopItems.range first last).segment start limit = .range first' last'
        ∧ (first'.toInt ≤ last'.toInt → first.toInt ≤ first'.toInt ∧ last'.toInt ≤ last.toInt)
  /-- An iteration has at least one item left, itself: rendering the items does not depend on what
  would be done in any other. -/
  iteration : ∀ (items : LoopItems) (start : Nat) (limit : Option Nat) (reversed : Bool)
      (f g : Value → Nat → Rendering),
    let part := items.segment start limit
    (∀ v index, index + 1 ≤ part.length → f v index = g v index) →
      part.renderEach reversed f = part.renderEach reversed g
  /-- A table with cells has columns. -/
  columns : ∀ (header : LoopHeader) (c : Context) (part : LoopItems), part.length ≠ 0 →
    0 < (header.columns? c).getD part.length
  /-- The bounds of a slice are positions of the list. -/
  slice : ∀ {α : Type} {items : List α} {start count : Int} {first n : Nat},
    sliceBounds? items.length start count = some (first, n) →
      part? items first (first + n) = some (slice items start count)
  /-- A text that is cut has the words that are kept. -/
  words : ∀ {count : Nat} {mark s : List Char}, count < (Text.words s).length →
    ∃ kept, part? (Text.words s) 0 count = some kept
      ∧ Text.truncateWords count mark s = List.intercalate [' '] kept ++ mark

theorem rendersWithin : RendersWithin where
  position cycle c := by
    have hpos : 0 < cycle.values.length := Nat.succ_pos _
    have hlt : cycle.position c < cycle.values.length := Nat.mod_lt _ hpos
    refine ⟨hpos, ?_⟩
    rw [List.getD_eq_getElem?_getD, List.getElem?_eq_getElem hlt, Option.getD_some]
  segment items start limit := by
    have hskip : min start items.length ≤ items.length := Nat.min_le_right _ _
    refine ⟨_, _, _, part?_of_le ?_, rfl⟩
    show min start items.length + _ ≤ items.length
    cases limit with
    | none => exact Nat.le_of_eq (Nat.add_sub_cancel' hskip)
    | some limit =>
      refine Nat.le_trans (Nat.add_le_add_left (Nat.min_le_right _ _) _) ?_
      exact Nat.le_of_eq (Nat.add_sub_cancel' hskip)
  range first last start limit := by
    obtain ⟨first', last', hsegment, hbounds, -⟩ := LoopItems.segment_range first last start limit
    exact ⟨first', last', hsegment, hbounds⟩
  iteration items start limit reversed f g := LoopItems.renderEach_congr
  columns header c part hpart := by
    unfold LoopHeader.columns?
    extract_lets n
    split
    · exact Nat.pos_of_ne_zero hpart
    · next hn => exact Nat.pos_of_ne_zero hn
  slice {α items start count first n} h := by
    rw [part?_of_le (add_le_of_sliceBounds? h), slice, h]
  words {count mark s} h := by
    have hpart : part? (Text.words s) 0 (0 + count) = some (((Text.words s).drop 0).take count) :=
      part?_of_le (by omega)
    rw [Nat.zero_add, List.drop_zero] at hpart
    refine ⟨_, hpart, ?_⟩
    rw [Text.truncateWords]
    exact if_neg (Nat.not_le.2 h)

end Liquid
