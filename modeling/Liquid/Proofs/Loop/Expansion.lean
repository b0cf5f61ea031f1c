import Liquid.Proofs.Context.Binding
import Liquid.Proofs.Expression.Roots
import Liquid.Proofs.Loop.Segment
import Liquid.Template.Render

/-!
# Ranges and the lists that they stand for

A loop over a range never makes a list of it. What it visits is the same as if it did, and this is
what a loop over a variable sees to which the range was assigned.

- `LoopItems.length_range`, `LoopItems.toInt_segment`: no number on the way is greater than what can
  be counted.
- `LoopItems.values_segment_expanded`: a part of a range has the values of that part of the list.
- `LoopHeader.iterations`, `LoopHeader.cells`: what a `for` or a `tablerow` binds in front of its
  body, again and again. `Node.render_loop` and `Node.render_table` say that they do.
- `LoopHeader.range_eq_assigned`: directly over a range, or over a variable to which it was
  assigned, this is the same but for the name of the loop.
-/

namespace Liquid

open Rendering

namespace LoopItems

variable {first last : Int64}

/-- The integers from `first` to `last`, none of which needs more than 64 bits. -/
theorem getElem?_integersBetween {i : Nat} (h : i < (last.toInt - first.toInt + 1).toNat) :
    ∃ n : Int64, n.toInt = first.toInt + i
      ∧ (Expression.integersBetween first last)[i]? = some (.integer n) := by
  have hlow := first.le_toInt
  have hhigh := last.toInt_lt
  refine ⟨Int64.ofInt (first.toInt + i), Int64.toInt_ofInt_of_le (by omega) (by omega), ?_⟩
  rw [Expression.integersBetween, List.getElem?_map, List.getElem?_range h]
  rfl

theorem length_integersBetween (first last : Int64) :
    (Expression.integersBetween first last).length = (last.toInt - first.toInt + 1).toNat :=
  length_values_range false first last

/-- The length of a range that can be counted. -/
theorem length_range (h : last.toInt - first.toInt + 1 ≤ maxLength) :
    (range first last).length = (last.toInt - first.toInt + 1).toNat :=
  Nat.min_eq_left (Int.toNat_le.2 h)

/-- A part of a range that is not empty begins `start` integers behind the first, and ends where it
has as many as it says. -/
theorem toInt_segment (first last : Int64) (start : Nat) (limit : Option Nat) :
    let part := (range first last).segment start limit
    ∃ first' last' : Int64, part = range first' last'
      ∧ (part.length ≠ 0 → first'.toInt = first.toInt + start
        ∧ last'.toInt = first.toInt + start + part.length - 1) := by
  intro part
  generalize hskip : min start (range first last).length = skip
  generalize hcount : stop start (range first last).length limit - skip = count
  have hstop := stop_le start (range first last).length limit
  have hlength : (range first last).length =
      min (last.toInt - first.toInt + 1).toNat maxLength := rfl
  have hpart : part = _ := segment_range_eq hskip hcount
  by_cases hzero : count = 0
  · rw [if_pos hzero] at hpart
    exact ⟨1, 0, hpart, fun h => absurd (hpart ▸ rfl) h⟩
  · rw [if_neg hzero] at hpart
    have hfits : skip + count ≤ (last.toInt - first.toInt + 1).toNat := by omega
    obtain ⟨hfirst, hlast⟩ := toInt_part hzero hfits
    have hcounted : part.length = count := by
      rw [hpart, length_range (by rw [hfirst, hlast]; omega), hfirst, hlast]
      omega
    refine ⟨_, _, hpart, fun _ => ?_⟩
    rw [hfirst, hlast, hcounted]
    omega

/-- A part of a range has the values of that part of the list. -/
theorem values_segment_expanded (h : last.toInt - first.toInt + 1 ≤ maxLength) (start : Nat)
    (limit : Option Nat) (reversed : Bool) :
    ((range first last).segment start limit).values reversed =
      ((list (Expression.integersBetween first last)).segment start limit).values reversed := by
  have hlength : (Expression.integersBetween first last).length ≤ maxLength := by
    rw [length_integersBetween]
    exact Int.toNat_le.2 h
  have hforward : ((range first last).segment start limit).values false =
      ((list (Expression.integersBetween first last)).segment start limit).values false :=
    (@values_segment (range first last) hlength start limit).trans
      (@values_segment (list _) hlength start limit).symm
  cases reversed with
  | false => exact hforward
  | true => exact congrArg List.reverse hforward

end LoopItems

/-! ### What loops bind -/

namespace LoopHeader

/-- The part of its collection that a loop goes over. -/
def part (header : LoopHeader) (c : Context) : LoopItems :=
  (header.items c).segment (header.offset c) (header.limit? c)

/-- What a `for` binds in each iteration: the item, and what is known of the iteration. -/
def iterations (header : LoopHeader) (c : Context) : List (Value × Keyed Value) :=
  ((header.part c).values header.reversed).zipIdx.map fun item =>
    (item.1, LoopItems.metadata header.name item.2 (header.part c).length)

/-- The number of columns of a table. -/
def width (header : LoopHeader) (c : Context) : Nat :=
  (header.columns? c).getD (header.part c).length

/-- What a `tablerow` binds in each cell: the item, and what is known of the cell. -/
def cells (header : LoopHeader) (c : Context) : List (Value × Keyed Value) :=
  ((header.part c).values false).zipIdx.map fun item =>
    (item.1, Table.metadata header.name (header.width c) item.2 (header.part c).length)

end LoopHeader

theorem zipIdx_map_zipIdx {α β : Type} (g : α × Nat → β) (items : List α) :
    (items.zipIdx.map g).zipIdx = items.zipIdx.map fun item => (g item, item.2) :=
  List.ext_getElem (by simp) fun i _ _ => by simp

theorem Rendering.each_map {α β : Type} (f : β → Rendering) (g : α → β) (items : List α) :
    each f (items.map g) = each (f ∘ g) items := eachBehind_map f g items ""

/-- A `for` renders its body for each of its iterations. -/
theorem Node.render_loop {header : LoopHeader} {c : Context} (h : (header.items c).length ≠ 0)
    (body otherwise : List Node) :
    (Node.loop header body otherwise).render c =
      inScope (each (fun iteration => after
          (bindIteration header.itemName "forloop" iteration.1 iteration.2) (renderAll body))
          (header.iterations c))
        (c.setRegisterEntry LoopHeader.bookmarks header.name
          (.ofNat (header.offset c + (header.part c).length))) := by
  rw [Node.render, LoopHeader.iterations, each_map]
  simp only [if_neg h, LoopItems.renderEach_eq_each]
  rfl

/-- A `tablerow` renders its body for each of its cells. -/
theorem Node.render_table {header : LoopHeader} {c : Context} (h : (header.part c).length ≠ 0)
    (body : List Node) :
    (Node.table header body).render c =
      inScope ((emit Table.opening).andThen
        ((each (fun cell => after
            (bindIteration header.itemName "tablerowloop" cell.1.1 cell.1.2)
            ((emit (Table.cellOpening (header.width c) cell.2)).andThen
              ((renderAll body).andThen
                (emit (Table.cellClosing (header.width c) cell.2 (header.part c).length)))))
          (header.cells c).zipIdx).andThen (emit Table.closing))) c := by
  have hpart : ¬ ((header.items c).segment (header.offset c) (header.limit? c)).length = 0 := h
  rw [Node.render, LoopHeader.cells, zipIdx_map_zipIdx, each_map]
  simp only [if_neg hpart, LoopItems.renderEach_eq_each]
  rfl

/-! ### Assigned ranges -/

/-- A range that is not too long has the list of its integers as its value. -/
theorem Expression.evaluate_of_range? {e : Expression} {c : Context} {first last : Int64}
    (h : e.range? c = some (first, last)) (hlength : last.toInt - first.toInt < maxRangeLength) :
    e.evaluate c = .list (integersBetween first last) := by
  cases e with
  | range e e' =>
    cases h
    rw [evaluate, evaluateBy]
    exact if_neg (Int.not_le.2 hlength)
  | literal | path | array => cases h

namespace LoopHeader

/-- An iteration, but for the name of the loop. -/
def nameless (iteration : Value × Keyed Value) : Value × Keyed Value :=
  (iteration.1, iteration.2.filter fun entry => entry.1 != "name")

theorem nameless_metadata (item : Value) (name name' : String) (index length : Nat) :
    nameless (item, LoopItems.metadata name index length) =
      nameless (item, LoopItems.metadata name' index length) := by
  simp only [nameless, LoopItems.metadata, List.filter_cons, String.reduceBNe, if_true, if_false,
    Bool.false_eq_true]

theorem nameless_table (item : Value) (name name' : String) (width index length : Nat) :
    nameless (item, Table.metadata name width index length) =
      nameless (item, Table.metadata name' width index length) := by
  simp only [nameless, Table.metadata, LoopItems.metadata, Keyed.insertAll, Keyed.insert,
    List.foldl_cons, List.foldl_nil, String.reduceLT, String.reduceEq, if_true, if_false,
    List.filter_cons, String.reduceBNe, Bool.false_eq_true]

section

variable {header header' : LoopHeader} {c d : Context}
  (hattributes : header'.attributes = header.attributes)
  (hoptions : ∀ option e, Keyed.get? option header.attributes = some (.expression e) →
    e.evaluate c = e.evaluate d)

include hattributes hoptions

/-- A loop over a range and one over the list of its integers, which are alike otherwise, visit the
same but for the name of the loop. -/
theorem nameless_congr {first last : Int64}
    (hlength : last.toInt - first.toInt + 1 ≤ LoopItems.maxLength)
    (hitems : header.items c = .range first last)
    (hitems' : header'.items d = .list (Expression.integersBetween first last))
    (hreversed : header'.reversed = header.reversed)
    (hoffset : Keyed.get? "offset" header.attributes ≠ some .resume) :
    (header.iterations c).map nameless = (header'.iterations d).map nameless
      ∧ (header.cells c).map nameless = (header'.cells d).map nameless := by
  have hvalues : ∀ reversed,
      (header.part c).values reversed = (header'.part d).values reversed := by
    intro reversed
    rw [part, part, hitems, hitems',
      ← offset_congr hattributes hoptions fun hresume => absurd hresume hoffset,
      ← limit?_congr hattributes hoptions]
    exact LoopItems.values_segment_expanded hlength _ _ _
  have hpart : (header.part c).length = (header'.part d).length := by
    rw [part, part, ← LoopItems.length_values_segment _ _ _ false,
      ← LoopItems.length_values_segment _ _ _ false]
    exact congrArg List.length (hvalues false)
  have hwidth : header.width c = header'.width d := by
    rw [width, width, columns?_congr hattributes hoptions, hpart]
  constructor
  · rw [iterations, iterations, List.map_map, List.map_map, hvalues, hreversed, hpart]
    exact List.map_congr_left fun item _ => nameless_metadata ..
  · rw [cells, cells, List.map_map, List.map_map, hvalues, hpart, hwidth]
    exact List.map_congr_left fun item _ => nameless_table ..

end

/-- Where a range is assigned to a variable, the variable gives the list of its integers. -/
theorem items_assigned {header : LoopHeader} {collection : Expression} {name raw : String}
    {c : Context} {first last : Int64} (hbounds : collection.range? c = some (first, last))
    (hlength : last.toInt - first.toInt < Expression.maxRangeLength) (hdepth : 0 < c.depth)
    (hcollection : header.collection = .path name [] raw) :
    header.items ((Node.assign name ⟨some collection, []⟩).render c).2 =
      .list (Expression.integersBetween first last) := by
  have hassign : ((Node.assign name ⟨some collection, []⟩).render c).2 =
      c.set name (collection.evaluate c) := by
    rw [Node.render]
    rfl
  rw [hassign, items, hcollection, Expression.evaluate_name, Context.root,
    Context.find?_set hdepth, if_pos rfl, Expression.evaluate_of_range? hbounds hlength]
  rfl

/-- A range that is cut by its bounds has the same items as the list of its integers that is cut
item by item, front to back and back to front; both parts have as many items as they say, and no
number in the calculation is out of bounds. So `for` and `tablerow` visit the same items with the
same metadata, but for the name of the loop, directly over a range and over a variable to which the
range was assigned. -/
theorem range_eq_assigned :
    (∀ first last : Int64, last.toInt - first.toInt + 1 ≤ LoopItems.maxLength →
      ∀ (start : Nat) (limit : Option Nat) (reversed : Bool),
        let items := Expression.integersBetween first last
        let part := (LoopItems.range first last).segment start limit
        let part' := (LoopItems.list items).segment start limit
        items.length = (last.toInt - first.toInt + 1).toNat
        ∧ (∀ i < items.length, ∃ n : Int64, n.toInt = first.toInt + i
          ∧ items[i]? = some (.integer n))
        ∧ (LoopItems.range first last).length = (LoopItems.list items).length
        ∧ part.values reversed = part'.values reversed
        ∧ (part.values reversed).length = part.length
        ∧ (part'.values reversed).length = part'.length
        ∧ ∃ first' last' : Int64, part = .range first' last'
          ∧ (part.length ≠ 0 → first'.toInt = first.toInt + start
            ∧ last'.toInt = first.toInt + start + part.length - 1))
    ∧ ∀ (header : LoopHeader) (c : Context) (first last : Int64) (name raw name' : String),
        header.collection.range? c = some (first, last) →
        last.toInt - first.toInt < Expression.maxRangeLength →
        0 < c.depth →
        Keyed.get? "offset" header.attributes ≠ some .resume →
        let header' := { header with collection := .path name [] raw, name := name' }
        let d := ((Node.assign name ⟨some header.collection, []⟩).render c).2
        (∀ option e, Keyed.get? option header.attributes = some (.expression e) →
          e.evaluate c = e.evaluate d) →
        (header.items c).length = (header'.items d).length
        ∧ (header.iterations c).map nameless = (header'.iterations d).map nameless
        ∧ (header.cells c).map nameless = (header'.cells d).map nameless := by
  constructor
  · intro first last h start limit reversed
    have hlength := LoopItems.length_integersBetween first last
    refine ⟨hlength, fun i hi => LoopItems.getElem?_integersBetween (hlength ▸ hi),
      (LoopItems.length_range h).trans hlength.symm,
      LoopItems.values_segment_expanded h start limit reversed,
      LoopItems.length_values_segment _ start limit reversed,
      LoopItems.length_values_segment _ start limit reversed,
      LoopItems.toInt_segment first last start limit⟩
  · intro header c first last name raw name' hbounds hlength hdepth hoffset header' d hoptions
    have hcounted : last.toInt - first.toInt + 1 ≤ LoopItems.maxLength := by
      have hmax : Expression.maxRangeLength ≤ LoopItems.maxLength := by decide
      omega
    have hitems : header.items c = .range first last := by
      rw [items, hbounds]
    have hitems' : header'.items d = .list (Expression.integersBetween first last) :=
      items_assigned hbounds hlength hdepth rfl
    refine ⟨?_, nameless_congr rfl hoptions hcounted hitems hitems' rfl hoffset⟩
    rw [hitems, hitems', LoopItems.length_range hcounted]
    exact (LoopItems.length_integersBetween first last).symm

/-- A range of all integers but one, from the second on, and a `tablerow` in two columns over a
range that ends at a variable. -/
theorem range_eq_assigned_table :
    let first := Int64.minValue
    let last := Int64.maxValue - 1
    let size : LoopAttribute := .expression (.literal (.integer 2))
    let bounds : Expression := .range (.literal (.integer (-1))) (.path "n" [] "n")
    let header : LoopHeader :=
      ⟨"x", bounds, "x-(-1..n)", [("cols", size), ("limit", size), ("offset", size)], false⟩
    let header' : LoopHeader := { header with collection := .path "r" [] "r", name := "x-r" }
    let c : Context := ⟨[[("n", .integer 3)]], [], [], .none⟩
    let d := ((Node.assign "r" ⟨some header.collection, []⟩).render c).2
    last.toInt - first.toInt + 1 ≤ LoopItems.maxLength
      ∧ ((LoopItems.range first last).segment 1 none).values true =
        ((LoopItems.list (Expression.integersBetween first last)).segment 1 none).values true
      ∧ header.collection.range? c = some (-1, 3)
      ∧ (3 : Int64).toInt - (-1 : Int64).toInt < Expression.maxRangeLength
      ∧ 0 < c.depth
      ∧ Keyed.get? "offset" header.attributes ≠ some .resume
      ∧ (∀ option e, Keyed.get? option header.attributes = some (.expression e) →
        e.evaluate c = e.evaluate d)
      ∧ (header.cells c).length = 2
      ∧ (header.cells c).map nameless = (header'.cells d).map nameless := by
  intro first last size bounds header header' c d
  have hcounted : last.toInt - first.toInt + 1 ≤ LoopItems.maxLength := by decide
  have hlength : (3 : Int64).toInt - (-1 : Int64).toInt < Expression.maxRangeLength := by decide
  have hoffset : Keyed.get? "offset" header.attributes ≠ some .resume := by
    intro h
    cases h
  have hoptions : ∀ option e, Keyed.get? option header.attributes = some (.expression e) →
      e.evaluate c = e.evaluate d := by
    intro option e h
    have hmem := Keyed.mem_of_get? h
    have hliteral : e = .literal (.integer 2) := by
      simpa [header, size] using List.mem_map_of_mem (f := Prod.snd) hmem
    rw [hliteral]
    rfl
  obtain ⟨hparts, hloops⟩ := range_eq_assigned
  have hvalues := (hparts first last hcounted 1 none true).2.2.2.1
  have hcells := (hloops header c (-1) 3 "r" "r" "x-r" rfl hlength Nat.one_pos hoffset hoptions).2.2
  exact ⟨hcounted, hvalues, rfl, hlength, Nat.one_pos, hoffset, hoptions, by decide +kernel, hcells⟩

end LoopHeader

end Liquid
