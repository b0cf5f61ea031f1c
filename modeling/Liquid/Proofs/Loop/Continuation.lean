import Liquid.Proofs.Loop.Bookmarks
import Liquid.Proofs.Loop.Segment

/-!
# Loops that go on where others stopped

With the offset `continue`, a loop begins where the last one of its name stopped. Over the same
items, such loops together visit each item once, whatever else is rendered in between.

- `LoopRun.visited_eq`: the items from the position of a loop on that its limit leaves.
- `LoopRun.count_bookmark`: what is remembered of a loop is the position behind its last item.
- `LoopRun.Consecutive`: each of some runs begins where the one in front of it stopped.
- `LoopRun.flatMap_visited`: what consecutive runs visit, put together.
- `Session.loops_continue`: the runs of one name in a session are consecutive if all but the first
  go on with `continue`.
-/

namespace Liquid

open Rendering

namespace LoopRun

variable {run : LoopRun} {items : List Value}

theorem start_le (run : LoopRun) : run.start ≤ LoopHeader.maxPosition := by
  rw [start, LoopHeader.offset]
  split
  · exact LoopHeader.count_le _
  · exact LoopHeader.count_le _

theorem maxPosition_le_maxLength : LoopHeader.maxPosition ≤ LoopItems.maxLength := by decide

section

variable (hitems : run.items.values false = items) (hlength : items.length ≤ LoopHeader.maxPosition)

include hitems hlength

theorem length_le : (run.items.values false).length ≤ LoopItems.maxLength :=
  hitems ▸ Nat.le_trans hlength maxPosition_le_maxLength

/-- A loop visits the items from its position on that its limit leaves. -/
theorem visited_eq :
    run.visited = items.extract run.start
      (LoopItems.stop run.start items.length run.limit?) := by
  rw [visited, part, LoopItems.values_segment (length_le hitems hlength), hitems]

/-- What is remembered of a loop is the position behind the last item that it visits. -/
theorem count_bookmark :
    LoopHeader.count run.bookmark.asInteger? = run.start + run.visited.length := by
  have hpart : run.part.length = run.visited.length :=
    (LoopItems.length_values_segment _ _ _ false).symm
  have hvisited : run.visited.length ≤ items.length - run.start := by
    rw [visited_eq hitems hlength, List.extract_eq_take_drop, List.length_take, List.length_drop]
    exact Nat.min_le_right _ _
  have hstart := start_le run
  rw [bookmark, hpart]
  exact LoopHeader.count_ofNat (by omega)

end

/-- A loop with the offset `continue` begins at the position that is remembered. -/
theorem start_of_resume (h : Keyed.get? "offset" run.header.attributes = some .resume) :
    run.start = LoopHeader.count (run.context.bookmark run.header.name).asInteger? := by
  rw [start, LoopHeader.offset, h]
  rfl

/-- The first run begins at `position`, and each other one behind the last item that the one in
front of it visits. -/
def Consecutive : (position : Nat) → List LoopRun → Prop
  | _, [] => True
  | position, run :: rest =>
    run.start = position ∧ Consecutive (position + run.visited.length) rest

/-- How many items runs take at most in all, if each of them has a limit. -/
def totalLimit? : List LoopRun → Option Nat
  | [] => some 0
  | run :: rest => do return (← run.limit?) + (← totalLimit? rest)

theorem extract_append_extract {α : Type} (xs : List α) {i j k : Nat} (hij : i ≤ j)
    (hjk : j ≤ k) : xs.extract i j ++ xs.extract j k = xs.extract i k := by
  have hsplit : k - i = (j - i) + (k - j) := by omega
  have hdrop : (xs.drop i).drop (j - i) = xs.drop j := by
    rw [List.drop_drop]
    congr 1
    omega
  simp only [List.extract_eq_take_drop]
  rw [hsplit, List.take_add, hdrop]

theorem extract_eq_nil {α : Type} {xs : List α} {i : Nat} (h : xs.length ≤ i) (j : Nat) :
    xs.extract i j = [] := by
  rw [List.extract_eq_take_drop, List.drop_eq_nil_of_le h, List.take_nil]

/-- Two segments, the second of which begins where the first ends, are one. -/
theorem extract_stop_append {α : Type} {xs first : List α} {i : Nat} {limit : Option Nat}
    (hfirst : first = xs.extract i (LoopItems.stop i xs.length limit)) (limit' : Option Nat) :
    first ++ xs.extract (i + first.length)
        (LoopItems.stop (i + first.length) xs.length limit') =
      xs.extract i (LoopItems.stop i xs.length (do return (← limit) + (← limit'))) := by
  by_cases hi : i ≤ xs.length
  · -- the first segment ends at `j`, and the second begins there
    generalize hj : LoopItems.stop i xs.length limit = j at hfirst
    have hij : i ≤ j := by
      cases limit <;> simp only [LoopItems.stop] at hj <;> omega
    have hjlength : j ≤ xs.length := by
      cases limit <;> simp only [LoopItems.stop] at hj <;> omega
    have hlength : i + first.length = j := by
      rw [hfirst, List.extract_eq_take_drop, List.length_take, List.length_drop]
      omega
    have hjk : j ≤ LoopItems.stop j xs.length limit' := by
      cases limit' <;> simp only [LoopItems.stop] <;> omega
    have hstop : LoopItems.stop j xs.length limit' =
        LoopItems.stop i xs.length (do return (← limit) + (← limit')) := by
      subst hj
      cases limit with
      | none =>
        show LoopItems.stop xs.length xs.length limit' = xs.length
        cases limit' with
        | none => rfl
        | some b => exact Nat.min_eq_right (Nat.le_add_right _ _)
      | some a =>
        cases limit' with
        | none => rfl
        | some b =>
          show min (min (i + a) xs.length + b) xs.length = min (i + (a + b)) xs.length
          omega
    rw [hlength, hfirst, extract_append_extract xs hij hjk, hstop]
  · have hlength : xs.length ≤ i := Nat.le_of_not_le hi
    have hlength' : xs.length ≤ i + first.length := Nat.le_trans hlength (Nat.le_add_right _ _)
    rw [extract_eq_nil hlength', hfirst, extract_eq_nil hlength, extract_eq_nil hlength,
      List.nil_append]

/-- What consecutive runs over the same items visit, put together, are the items from the position
of the first on that all their limits leave. -/
theorem flatMap_visited {runs : List LoopRun} {position : Nat}
    (hruns : Consecutive position runs)
    (hvisited : ∀ run ∈ runs, run.visited = items.extract run.start
      (LoopItems.stop run.start items.length run.limit?)) :
    runs.flatMap visited =
      items.extract position (LoopItems.stop position items.length (totalLimit? runs)) := by
  induction runs generalizing position with
  | nil =>
    rw [List.extract_eq_take_drop, totalLimit?, LoopItems.stop, Nat.add_zero,
      Nat.sub_eq_zero_of_le (Nat.min_le_left _ _), List.take_zero]
    rfl
  | cons run rest ih =>
    obtain ⟨rfl, hrest⟩ := hruns
    have hrun := hvisited run List.mem_cons_self
    rw [List.flatMap_cons, ih hrest fun run' h => hvisited run' (List.mem_cons_of_mem run h)]
    exact extract_stop_append hrun (totalLimit? rest)

/-- Runs of other names do not matter to a bookmark. -/
theorem Chained.filter {name : String} {first last : Value} {runs : List LoopRun}
    (h : Chained name first runs last) :
    Chained name first (runs.filter fun run => run.header.name = name) last := by
  induction runs generalizing first with
  | nil => exact h
  | cons run rest ih =>
    rw [Chained] at h
    by_cases hname : run.header.name = name
    · rw [if_pos hname] at h
      rw [List.filter_cons_of_pos (by simpa using hname), Chained, if_pos hname]
      exact ⟨h.1, ih h.2⟩
    · rw [if_neg hname] at h
      rw [List.filter_cons_of_neg (by simpa using hname)]
      exact ih h

/-- Runs of one name over the same items are consecutive where they go on with `continue`. -/
theorem Chained.consecutive {name : String} {first last : Value} {runs : List LoopRun}
    (h : Chained name first runs last) (hname : ∀ run ∈ runs, run.header.name = name)
    (hitems : ∀ run ∈ runs, run.items.values false = items)
    (hlength : items.length ≤ LoopHeader.maxPosition)
    (hresume : ∀ run ∈ runs, Keyed.get? "offset" run.header.attributes = some .resume) :
    Consecutive (LoopHeader.count first.asInteger?) runs := by
  induction runs generalizing first with
  | nil => trivial
  | cons run rest ih =>
    have hrun : run ∈ run :: rest := List.mem_cons_self
    rw [Chained, if_pos (hname run hrun)] at h
    obtain ⟨hbookmark, hrest⟩ := h
    have hstart : run.start = LoopHeader.count first.asInteger? := by
      rw [start_of_resume (hresume run hrun), hname run hrun, hbookmark]
    refine ⟨hstart, ?_⟩
    rw [← hstart, ← count_bookmark (hitems run hrun) hlength]
    exact ih hrest (fun run' h => hname run' (List.mem_cons_of_mem run h))
      (fun run' h => hitems run' (List.mem_cons_of_mem run h))
      fun run' h => hresume run' (List.mem_cons_of_mem run h)

/-- A loop goes over the items that it visits, in order or back to front. -/
theorem render_visited (h : run.items.length ≠ 0) (body otherwise : List Node) :
    (Node.loop run.header body otherwise).render run.context =
      inScope (each (fun item => after (run.bind item) (renderAll body))
        (if run.header.reversed then run.visited.reverse else run.visited).zipIdx) run.marked := by
  have hvalues : run.part.values run.header.reversed =
      if run.header.reversed then run.visited.reverse else run.visited := by
    cases run.header.reversed <;> rfl
  rw [render_eq run body otherwise h, hvalues]

end LoopRun

/-- Loops of one name that follow each other in a session, all over the same items, and all but the
first with the offset `continue`: each begins where the one in front of it stopped, and the first
where its own offset says. Each visits the items from there on that its limit leaves, and together
they visit the items from the first offset on that all limits leave, each item once. That a loop
visits items means that its body is rendered for them in turn, in order or back to front, until it
fails.

What else is rendered in between does not matter, and neither does whether the loops stand one
behind another, in a body that is rendered repeatedly, in each other, in included templates or in
templates of their own. -/
theorem Session.loops_continue {session : Session} {c : Context} {name : String}
    {items : List Value} {before rest behind : List LoopRun} {first : LoopRun}
    (hruns : (session.loops c).filter (fun run => run.header.name = name) =
      before ++ (first :: rest ++ behind))
    (hitems : ∀ run ∈ first :: rest, run.items.values false = items) (hne : items ≠ [])
    (hlength : items.length ≤ LoopHeader.maxPosition)
    (hfirst : Keyed.get? "offset" first.header.attributes ≠ some .resume)
    (hrest : ∀ run ∈ rest, Keyed.get? "offset" run.header.attributes = some .resume) :
    let runs := first :: rest
    let offset := LoopHeader.count (first.header.integer? "offset" first.context)
    LoopRun.Consecutive offset runs
    ∧ (∀ run ∈ runs, run.visited =
      items.extract run.start (LoopItems.stop run.start items.length run.limit?))
    ∧ runs.flatMap LoopRun.visited =
      items.extract offset (LoopItems.stop offset items.length (LoopRun.totalLimit? runs))
    ∧ ∀ run ∈ runs, ∀ body otherwise : List Node,
      (Node.loop run.header body otherwise).render run.context =
        inScope (each (fun item => after (run.bind item) (renderAll body))
          (if run.header.reversed then run.visited.reverse else run.visited).zipIdx)
          run.marked := by
  intro runs offset
  have hname : ∀ run ∈ runs, run.header.name = name := by
    intro run hrun
    have hmem : run ∈ (session.loops c).filter fun run => run.header.name = name :=
      hruns ▸ List.mem_append_right before (List.mem_append_left behind hrun)
    exact of_decide_eq_true (List.mem_filter.1 hmem).2
  have hvisited : ∀ run ∈ runs, run.visited =
      items.extract run.start (LoopItems.stop run.start items.length run.limit?) :=
    fun run hrun => LoopRun.visited_eq (hitems run hrun) hlength
  have hconsecutive : LoopRun.Consecutive offset runs := by
    obtain ⟨last, hsession⟩ := session.chained name c
    have hnamed := hsession.filter
    rw [hruns] at hnamed
    obtain ⟨start, -, hbehind⟩ := LoopRun.chained_append_iff.1 hnamed
    obtain ⟨stop, hchained, -⟩ := LoopRun.chained_append_iff.1 hbehind
    rw [LoopRun.Chained, if_pos (hname first List.mem_cons_self)] at hchained
    -- only `continue` looks at what is remembered
    have hstart : first.start = offset := by
      rw [LoopRun.start, LoopHeader.offset]
      split
      · next h => exact (hfirst h).elim
      · rfl
    refine ⟨hstart, ?_⟩
    rw [← hstart, ← LoopRun.count_bookmark (hitems first List.mem_cons_self) hlength]
    exact hchained.2.consecutive (fun run h => hname run (List.mem_cons_of_mem first h))
      (fun run h => hitems run (List.mem_cons_of_mem first h)) hlength hrest
  refine ⟨hconsecutive, hvisited, LoopRun.flatMap_visited hconsecutive hvisited,
    fun run hrun body otherwise => LoopRun.render_visited ?_ body otherwise⟩
  rw [LoopItems.length_eq_of_le (LoopRun.length_le (hitems run hrun) hlength), hitems run hrun]
  exact fun hzero => hne (List.length_eq_zero_iff.1 hzero)

/-- The second loop stands in a template of its own, goes back to front and has more items as its
limit than are left. A loop of another name comes in between. -/
theorem Session.loops_continue_reversed :
    let numbers : Expression := .range (.literal (.integer 1)) (.literal (.integer 5))
    let two : LoopAttribute := .expression (.literal (.integer 2))
    let one : LoopAttribute := .expression (.literal (.integer 1))
    let nine : LoopAttribute := .expression (.literal (.integer 9))
    let first : LoopHeader := ⟨"x", numbers, "x-(1..5)", [("limit", two), ("offset", one)], false⟩
    let second : LoopHeader :=
      ⟨"x", numbers, "x-(1..5)", [("limit", nine), ("offset", .resume)], true⟩
    let other : LoopHeader := ⟨"y", numbers, "y-(1..5)", [], false⟩
    let template : Template := ⟨none, [.loop first [] [], .loop other [] []]⟩
    let session : Session := [([], template), ([("y", .nil)], ⟨none, [.loop second [] []]⟩)]
    let c : Context := ⟨[[]], [], [], .none⟩
    let run : LoopRun := ⟨first, c⟩
    let last : LoopRun := ⟨second, (template.render c).2.merge [("y", .nil)]⟩
    let items : List Value := [.integer 1, .integer 2, .integer 3, .integer 4, .integer 5]
    (session.loops c).filter (fun run => run.header.name = "x-(1..5)") = [] ++ ([run, last] ++ [])
      ∧ (∀ r ∈ [run, last], r.items.values false = items)
      ∧ items ≠ []
      ∧ items.length ≤ LoopHeader.maxPosition
      ∧ Keyed.get? "offset" first.attributes ≠ some .resume
      ∧ (∀ r ∈ [last], Keyed.get? "offset" r.header.attributes = some .resume)
      ∧ last.start = run.start + run.visited.length
      ∧ [run, last].flatMap LoopRun.visited = [.integer 2, .integer 3, .integer 4, .integer 5] := by
  intro numbers two one nine first second other template session c run last items
  have hruns : (session.loops c).filter (fun run => run.header.name = "x-(1..5)") =
      [] ++ ([run, last] ++ []) := by
    dsimp +zetaDelta only
    exact rfl
  have hitems : ∀ r ∈ [run, last], r.items.values false = items := by
    simp only [List.forall_mem_cons]
    exact ⟨rfl, rfl, fun r h => by cases h⟩
  have hne : items ≠ [] := List.cons_ne_nil _ _
  have hlength : items.length ≤ LoopHeader.maxPosition := by decide
  have hfirst : Keyed.get? "offset" first.attributes ≠ some .resume := by
    intro h
    cases h
  have hrest : ∀ r ∈ [last], Keyed.get? "offset" r.header.attributes = some .resume := by
    intro r hr
    cases List.mem_singleton.1 hr
    rfl
  obtain ⟨⟨hstart, hlast, -⟩, -, hvisited, -⟩ :=
    loops_continue hruns hitems hne hlength hfirst hrest
  refine ⟨hruns, hitems, hne, hlength, hfirst, hrest, ?_, hvisited⟩
  rw [hlast, hstart]

end Liquid
