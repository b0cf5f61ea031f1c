import Liquid.Proofs.Loop.Expansion
import Liquid.Proofs.Render.Frame
import Liquid.Proofs.Render.Steps

/-!
# The iterations of a `for`

Which items a loop visits, in which order, and what its body reads about each iteration.

- `LoopHeader.elements`: the collection of a loop as a list; `LoopHeader.visits` of them are
  visited, and `LoopHeader.position` says which one comes in which iteration.
- `LoopHeader.takes`: what the options of a loop say about that.
- `Node.render_loop_eq_times`: the iterations of a loop are a repetition that is counted.
- `Node.render_iterations`: what a `for` renders, iteration by iteration.
- `Node.render_long_loop`: what is held of a loop that has too many iterations for a value.
-/

namespace Liquid

open Rendering

/-! ### What is known of an iteration -/

namespace LoopItems

/-- A number stands under a key. The greatest integer stands for all numbers that are greater. -/
def HoldsNumber (data : Keyed Value) (key : String) (n : Nat) : Prop :=
  ∃ i : Int64, Keyed.get? key data = some (.integer i) ∧ i.toInt = min n LoopHeader.maxPosition

theorem HoldsNumber.of_get? {data : Keyed Value} {key : String} {n : Nat}
    (h : Keyed.get? key data = some (.ofNat n)) : HoldsNumber data key n := by
  have hmin : min n 0x7FFFFFFFFFFFFFFF ≤ 0x7FFFFFFFFFFFFFFF := Nat.min_le_right _ _
  exact ⟨_, h, Int64.toInt_ofInt_of_le (by omega) (by omega)⟩

/-- What is known of iteration `k` of `n`, counted from zero, in the loop `loop`. -/
structure Describes (data : Keyed Value) (loop : String) (k n : Nat) : Prop where
  /-- The name of the loop. -/
  name : Keyed.get? "name" data = some (.string loop)
  /-- How many iterations there are. -/
  length : HoldsNumber data "length" n
  /-- The number of the iteration. -/
  index : HoldsNumber data "index" (k + 1)
  /-- Its number when counting begins at zero. -/
  index0 : HoldsNumber data "index0" k
  /-- How many iterations are left, this one included. -/
  rindex : ∃ left, left + k = n ∧ HoldsNumber data "rindex" left
  /-- How many iterations are left behind this one. -/
  rindex0 : ∃ left, left + k + 1 = n ∧ HoldsNumber data "rindex0" left
  /-- Whether it is the first one. -/
  first : ∃ b : Bool, Keyed.get? "first" data = some (.bool b) ∧ (b = true ↔ k = 0)
  /-- Whether it is the last one. -/
  last : ∃ b : Bool, Keyed.get? "last" data = some (.bool b) ∧ (b = true ↔ k + 1 = n)

theorem describes_metadata (loop : String) {k n : Nat} (hk : k < n) :
    Describes (metadata loop k n) loop k n where
  name := rfl
  length := .of_get? rfl
  index := .of_get? rfl
  index0 := .of_get? rfl
  rindex := ⟨n - k, by omega, .of_get? rfl⟩
  rindex0 := ⟨n - k - 1, by omega, .of_get? rfl⟩
  first := ⟨_, rfl, beq_iff_eq⟩
  last := ⟨_, rfl, beq_iff_eq⟩

end LoopItems

/-! ### Elements -/

/-- What a loop over a value goes over: the items of a list, the pairs of key and value of a
dictionary, nothing for nil and for the empty string, and any other value itself. -/
def Value.elements : Value → List Value
  | .list items => items
  | .dict entries => entries.map fun entry => .list [.string entry.1, entry.2]
  | .nil => []
  | .string s => if s = "" then [] else [.string s]
  | v => [v]

namespace LoopHeader

variable (header : LoopHeader) (c : Context)

/-- What a loop goes over: the integers of a range, or the elements of any other value. -/
def elements : List Value :=
  match header.collection.range? c with
  | some (first, last) => Expression.integersBetween first last
  | none => (header.collection.evaluate c).elements

/-- A loop over a range has no more integers to go over than are counted. -/
def IsCounted : Prop :=
  ∀ first last : Int64, header.collection.range? c = some (first, last) →
    last.toInt - first.toInt + 1 ≤ LoopItems.maxLength

/-- How many elements a loop visits: those that its offset leaves, up to its limit. -/
def visits : Nat :=
  let left := (header.elements c).length - min (header.offset c) (header.elements c).length
  match header.limit? c with
  | some limit => min limit left
  | none => left

/-- The position of the element that iteration `k` visits. -/
def position (k : Nat) : Nat :=
  header.offset c + if header.reversed then header.visits c - 1 - k else k

/-- The element that iteration `k` visits. -/
def item (k : Nat) : Value := (header.elements c).getD (header.position c k) .nil

/-- Binds what the body of iteration `k` reads: the element, and then what is known of the
iteration. -/
def enter (k : Nat) : Context → Context :=
  bindIteration header.itemName "forloop" (header.item c k)
    (LoopItems.metadata header.name k (header.visits c))

/-- Iteration `k`. -/
def iteration (body : List Node) (k : Nat) : Rendering := after (header.enter c k) (renderAll body)

/-- The context in which the first iteration begins. It is remembered where the loop ends, and all
iterations share a new scope. -/
def start : Context :=
  (c.setRegisterEntry bookmarks header.name (.ofNat (header.offset c + header.visits c))).push

/-! ### Options -/

/-- What the options of a loop say about its first item and the number of its items. -/
structure Takes (offset : Nat) (limit? : Option Nat) : Prop where
  /-- A loop begins at the beginning. -/
  of_no_offset : Keyed.get? "offset" header.attributes = none → offset = 0
  /-- An offset is an integer; what is negative or no integer counts as zero. -/
  of_offset : ∀ e, Keyed.get? "offset" header.attributes = some (.expression e) →
    offset = (((e.evaluate c).asInteger?).getD 0).toInt.toNat
  /-- The offset `continue` is the integer that is remembered of the loop of the same name. -/
  of_resume : Keyed.get? "offset" header.attributes = some .resume →
    offset = (((c.registerEntry "for" header.name).asInteger?).getD 0).toInt.toNat
  /-- Without a limit a loop goes on to the end. -/
  of_no_limit : Keyed.get? "limit" header.attributes = none → limit? = none
  /-- A limit is an integer; what is negative or no integer counts as zero. -/
  of_limit : ∀ e, Keyed.get? "limit" header.attributes = some (.expression e) →
    limit? = some (((e.evaluate c).asInteger?).getD 0).toInt.toNat

theorem takes : header.Takes c (header.offset c) (header.limit? c) where
  of_no_offset h := by
    rw [offset, h]
    simp only [integer?, h]
    rfl
  of_offset e h := by
    rw [offset, h]
    simp only [integer?, h]
    rfl
  of_resume h := by
    rw [offset, h]
    rfl
  of_no_limit h := by
    rw [limit?, Keyed.contains, h]
    rfl
  of_limit e h := by
    rw [limit?, Keyed.contains, h]
    simp only [integer?, h]
    rfl

/-! ### The elements that are visited -/

variable {header c}

theorem items_of_range?_eq_none (h : header.collection.range? c = none) :
    header.items c = .list (header.collection.evaluate c).elements := by
  rw [items, h]
  dsimp only
  generalize header.collection.evaluate c = v
  cases v with
  | string s =>
    by_cases hs : s = ""
    · rw [hs]
      rfl
    · rw [Value.elements, if_neg hs]
      split
      · next heq => cases heq
      · next heq => cases heq
      · next heq => cases heq
      · next heq => cases heq; exact absurd rfl hs
      · rfl
  | _ => rfl

theorem values_items : (header.items c).values false = header.elements c := by
  cases hrange : header.collection.range? c with
  | some bounds =>
    rw [items, elements, hrange]
    rfl
  | none =>
    rw [items_of_range?_eq_none hrange, elements, hrange]
    rfl

theorem length_items (hcounted : header.IsCounted c) :
    (header.items c).length = (header.elements c).length := by
  cases hrange : header.collection.range? c with
  | some bounds =>
    have hle := hcounted bounds.1 bounds.2 hrange
    have hitems : header.items c = .range bounds.1 bounds.2 := by rw [items, hrange]
    rw [← values_items, hitems]
    refine LoopItems.length_eq_of_le ?_
    rw [LoopItems.length_values_range]
    exact Int.toNat_le.2 hle
  | none =>
    rw [← values_items, items_of_range?_eq_none hrange]
    rfl

theorem values_part (hcounted : header.IsCounted c) :
    (header.part c).values false = (header.elements c).extract (header.offset c)
      (LoopItems.stop (header.offset c) (header.elements c).length (header.limit? c)) := by
  have hlength := length_items hcounted
  rw [← values_items] at hlength ⊢
  exact LoopItems.values_segment_of_length hlength _ _

theorem length_part (hcounted : header.IsCounted c) :
    (header.part c).length = header.visits c := by
  obtain ⟨hsome, hnone⟩ := LoopItems.stop_sub (header.offset c) (header.elements c).length
  rw [part, ← LoopItems.length_values_segment _ _ _ false, ← part, values_part hcounted,
    ← LoopItems.drop_take_min, List.length_take, List.length_drop, visits]
  cases header.limit? c with
  | some limit =>
    rw [hsome]
    show min (min limit _) _ = min limit _
    omega
  | none =>
    rw [hnone]
    exact Nat.min_self _

/-- No iteration is at a position behind the last element. -/
theorem position_lt {k : Nat} (hk : k < header.visits c) :
    header.position c k < (header.elements c).length := by
  have hvisits : header.visits c ≤ (header.elements c).length
      - min (header.offset c) (header.elements c).length := by
    rw [visits]
    split
    · exact Nat.min_le_right _ _
    · exact Nat.le_refl _
  rw [position]
  split <;> omega

/-- Front to back, the elements that are visited are those from the offset on. -/
theorem getElem?_values_part (hcounted : header.IsCounted c) {k : Nat}
    (hk : k < header.visits c) :
    ((header.part c).values false)[k]? = (header.elements c)[header.offset c + k]? := by
  have hin : k < ((header.part c).values false).length := by
    have hlength := LoopItems.length_values_segment (header.items c) (header.offset c)
      (header.limit? c) false
    rw [← part, length_part hcounted] at hlength
    rwa [hlength]
  rw [values_part hcounted, List.extract_eq_take_drop, List.length_take] at hin
  rw [values_part hcounted, List.extract_eq_take_drop, List.getElem?_take_of_lt (by omega),
    List.getElem?_drop]

theorem getElem?_values_reversed (hcounted : header.IsCounted c) {k : Nat}
    (hk : k < header.visits c) :
    ((header.part c).values header.reversed)[k]? =
      (header.elements c)[header.position c k]? := by
  rw [position]
  by_cases hreversed : header.reversed = true
  · have hvalues : (header.part c).values header.reversed =
        ((header.part c).values false).reverse := by
      rw [hreversed]
      rfl
    have hlength : ((header.part c).values false).length = header.visits c := by
      rw [← length_part hcounted]
      exact LoopItems.length_values_segment _ _ _ _
    rw [hvalues, if_pos hreversed, List.getElem?_reverse (by rwa [hlength]), hlength]
    exact getElem?_values_part hcounted (by omega)
  · rw [Bool.eq_false_iff.2 hreversed, if_neg (by decide)]
    exact getElem?_values_part hcounted hk

/-- What a `for` binds, iteration by iteration. -/
theorem iterations_eq (hcounted : header.IsCounted c) :
    header.iterations c = (List.range (header.visits c)).map fun k =>
      (header.item c k, LoopItems.metadata header.name k (header.visits c)) := by
  have hlength : ((header.part c).values header.reversed).length = header.visits c := by
    rw [← length_part hcounted]
    exact LoopItems.length_values_segment _ _ _ _
  refine List.ext_getElem (by simp [iterations, hlength]) fun k hk _ => ?_
  have hvisit : k < header.visits c := by simpa [iterations, hlength] using hk
  have hitem : ((header.part c).values header.reversed)[k] = header.item c k := by
    rw [item, List.getD_eq_getElem?_getD, ← getElem?_values_reversed hcounted hvisit,
      List.getElem?_eq_getElem (by rwa [hlength])]
    rfl
  simp only [iterations, List.getElem_map, List.getElem_zipIdx, List.getElem_range, Nat.zero_add,
    hitem, length_part hcounted]

/-! ### Contexts of iterations -/

variable (header c) (body : List Node)

/-- What a body binds is gone with the scope in which it is rendered, and no body opens or closes
a scope for the next. -/
theorem depth_reached {enter : Nat → Context → Context}
    (henter : ∀ k d, (enter k d).depth = d.depth) (d : Context) (k : Nat) :
    (reached (fun k => after (enter k) (renderAll body)) d k).depth = d.depth := by
  induction k with
  | zero => rfl
  | succ k ih =>
    rw [reached, after, (renderAll_changesOnly_any body _).depth, henter, ih]

theorem depth_bindIteration (itemName metaName : String) (item : Value) (data : Keyed Value)
    (d : Context) : (bindIteration itemName metaName item data d).depth = d.depth := by
  rw [bindIteration, Context.depth_set, Context.depth_set]

/-- What is known of the iteration hides an element that is bound to the same name. -/
theorem find?_enter {d : Context} (hdepth : 0 < d.depth) (k : Nat) (name : String) :
    (header.enter c k d).find? name =
      if "forloop" = name then
        some (.dict (LoopItems.metadata header.name k (header.visits c)))
      else if header.itemName = name then some (header.item c k) else d.find? name := by
  rw [enter, bindIteration, Context.find?_set (by rwa [Context.depth_set]),
    Context.find?_set hdepth]

end LoopHeader

/-! ### Rendering -/

/-- A `for` counts its iterations. -/
theorem Node.render_loop_eq_times {header : LoopHeader} {c : Context}
    (hcounted : header.IsCounted c) (h : header.elements c ≠ []) (body otherwise : List Node) :
    (Node.loop header body otherwise).render c =
      ((times (header.visits c) (header.iteration c body) (header.start c)).1,
        (times (header.visits c) (header.iteration c body) (header.start c)).2.leave) := by
  have hlength : (header.items c).length ≠ 0 := by
    rw [LoopHeader.length_items hcounted]
    exact fun hzero => h (List.length_eq_zero_iff.1 hzero)
  rw [Node.render_loop hlength, LoopHeader.length_part hcounted,
    LoopHeader.iterations_eq hcounted, each_map, ← times_eq_each]
  rfl

end Liquid
