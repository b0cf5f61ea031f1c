import Liquid.Proofs.Loop.Segment
import Liquid.Proofs.Render.Visits

/-!
# The turns of cycles

Each time that a cycle is rendered, it is the turn of the next of its values. Cycles that keep their
positions under one key take turns together; what else is rendered in between does not matter.

- `Cycle.Emits`: which of its values a cycle emits.
- `Cycle.emits_position`, `Cycle.registerEntry_step`: it emits the value at its position, and keeps
  the next position, whatever is in the register.
- `Session.cycles`: the cycles that are rendered in a session under a key, in order.
- `Cycle.StandsAt`, `Visit.standsAt_of_cycle`: how a node moves the position under a key.
- `Session.cycles_take_turns`: under one key, the values of a session come round and round.
-/

namespace Liquid

/-! ### A single turn -/

namespace Cycle

variable (cycle : Cycle) (c : Context)

/-- Rendered in a context, a cycle emits its value number `i`, counted from zero. -/
def Emits (i : Nat) : Prop :=
  ∃ value, cycle.values[i]? = some value
    ∧ ((Node.cycle cycle).render c).1 = .ok (value.evaluate c).toText

theorem length_values_pos : 0 < cycle.values.length := Nat.succ_pos _

theorem position_lt : cycle.position c < cycle.values.length :=
  Nat.mod_lt _ cycle.length_values_pos

theorem position_eq : cycle.position c =
    LoopHeader.count (c.registerEntry positions (cycle.keyIn c)).asInteger?
      % cycle.values.length := rfl

/-- A cycle emits the value at its position. -/
theorem emits_position : cycle.Emits c (cycle.position c) := by
  have hvalue := List.getElem?_eq_getElem (cycle.position_lt c)
  refine ⟨_, hvalue, ?_⟩
  rw [Node.render]
  show Except.ok ((cycle.values.getD (cycle.position c) cycle.first).evaluate c).toText = _
  rw [List.getD_eq_getElem?_getD, hvalue, Option.getD_some]

/-- Rendering a cycle keeps the position behind its own, and leaves those of other keys alone. -/
theorem registerEntry_step (key : String) :
    (cycle.step c).2.registerEntry positions key =
      if cycle.keyIn c = key then .ofNat ((cycle.position c + 1) % cycle.values.length)
      else c.registerEntry positions key := by
  rw [step, Context.registerEntry_setRegisterEntry]
  simp only [true_and]

/-- The number that is kept is one of 64 bits. -/
theorem exists_ofNat_mod {k : Nat} (hpos : 0 < k) (hk : k ≤ LoopHeader.maxPosition) (n : Nat) :
    ∃ i : Int64, Value.ofNat (n % k) = .integer i ∧ i.toInt = (n % k : Nat) := by
  have hlt := Nat.mod_lt n hpos
  rw [LoopHeader.maxPosition] at hk
  refine ⟨_, rfl, ?_⟩
  rw [Nat.min_eq_left (by omega)]
  exact Int64.toInt_ofInt_of_le (by omega) (by omega)

theorem count_ofNat_mod {k : Nat} (hpos : 0 < k) (hk : k ≤ LoopHeader.maxPosition) (n : Nat) :
    LoopHeader.count (Value.ofNat (n % k)).asInteger? = n % k :=
  LoopHeader.count_ofNat (Nat.le_trans (Nat.le_of_lt (Nat.mod_lt n hpos)) hk)

end Cycle

/-! ### The cycles of a session -/

/-- The cycles among nodes that keep their position under a key. -/
def cyclesUnder (key : String) (visits : List Visit) : List CycleRun :=
  visits.filterMap fun visit => visit.cycle?.filter fun run => run.key = key

/-- The cycles that are rendered in a session and keep their position under a key. -/
def Session.cycles (key : String) (session : Session) (c : Context) : List CycleRun :=
  cyclesUnder key (session.visits c)

namespace Cycle

/-- Under a key, registers have a position from which it is the turn of value number `n` of `k`,
when counting goes round and round. -/
def StandsAt (key : String) (k n : Nat) (registers : Keyed Value) : Prop :=
  ∀ c : Context, c.registers = registers →
    LoopHeader.count (c.registerEntry positions key).asInteger? % k = n % k

theorem standsAt_zero {key : String} {k : Nat} {c : Context}
    (h : c.register positions = .nil) : StandsAt key k 0 c.registers := by
  intro d hd
  -- nothing is kept under any key
  have hnil : d.registerEntry positions key = .nil := by
    rw [Context.register] at h
    rw [Context.registerEntry, hd]
    cases hget : Keyed.get? positions c.registers with
    | none => rfl
    | some v =>
      rw [hget] at h
      cases h
      rfl
  rw [hnil]
  rfl

end Cycle

namespace Visit

variable {visit : Visit} {key : String} {k n : Nat}

/-- Nodes that are no cycles move no positions. -/
theorem registerEntry_of_not_cycle (h : visit.cycle? = none) {d : Context}
    (hd : d.registers = visit.registers) :
    d.registerEntry Cycle.positions key = visit.context.registerEntry Cycle.positions key := by
  cases hloop : visit.loop? with
  | none => exact Context.registerEntry_congr (hd.trans (registers_eq h hloop)) _ _
  | some run =>
    obtain ⟨hcontext, hregisters⟩ := eq_of_loop? hloop
    -- loops have a register of their own
    rw [hcontext, Context.registerEntry_congr (hd.trans hregisters), LoopRun.marked,
      Context.registerEntry_setRegisterEntry, if_neg fun hgroup => absurd hgroup.1 (by decide)]

/-- A node under another key, or no cycle at all, leaves a position where it is. -/
theorem standsAt_of_other (hkey : visit.cycle?.filter (fun run => run.key = key) = none)
    (h : Cycle.StandsAt key k n visit.context.registers) :
    Cycle.StandsAt key k n visit.registers := by
  intro d hd
  have hentry : d.registerEntry Cycle.positions key =
      visit.context.registerEntry Cycle.positions key := by
    cases hcycle : visit.cycle? with
    | none => exact registerEntry_of_not_cycle hcycle hd
    | some run =>
      rw [hcycle, Option.filter_eq_none_iff] at hkey
      have hne : ¬ run.cycle.keyIn run.context = key := fun heq =>
        hkey run rfl (decide_eq_true heq)
      obtain ⟨hcontext, hregisters⟩ := eq_of_cycle? hcycle
      rw [hcontext, Context.registerEntry_congr (hd.trans hregisters), Cycle.registerEntry_step,
        if_neg hne]
  rw [hentry]
  exact h visit.context rfl

/-- A cycle under the key emits the value whose turn it is, and then it is the turn of the next. -/
theorem standsAt_of_cycle {run : CycleRun}
    (hrun : visit.cycle?.filter (fun run => run.key = key) = some run)
    (hlength : run.cycle.values.length = k) (hk : k ≤ LoopHeader.maxPosition)
    (h : Cycle.StandsAt key k n visit.context.registers) :
    run.position = n % k ∧ Cycle.StandsAt key k (n + 1) visit.registers := by
  obtain ⟨hcycle, hkey⟩ := Option.filter_eq_some_iff.1 hrun
  have hkeyIn : run.cycle.keyIn run.context = key := of_decide_eq_true hkey
  obtain ⟨hcontext, hregisters⟩ := eq_of_cycle? hcycle
  have hposition : run.cycle.position run.context = n % k := by
    rw [Cycle.position_eq, hkeyIn, hlength]
    exact h run.context (congrArg Context.registers hcontext.symm)
  refine ⟨hposition, fun d hd => ?_⟩
  have hpos : 0 < k := hlength ▸ run.cycle.length_values_pos
  rw [Context.registerEntry_congr (hd.trans hregisters), Cycle.registerEntry_step, if_pos hkeyIn,
    hlength, hposition, Cycle.count_ofNat_mod hpos hk, Nat.mod_mod, Nat.mod_add_mod]

/-- The positions of cycles of `k` values under one key, among nodes that are rendered one after
another, are the numbers from `n` on modulo `k`. -/
theorem Chained.map_position {visits : List Visit} {first last : Keyed Value}
    (h : Chained first visits last) (hk : k ≤ LoopHeader.maxPosition)
    (hlength : ∀ run ∈ cyclesUnder key visits, run.cycle.values.length = k)
    (hfirst : Cycle.StandsAt key k n first) :
    (cyclesUnder key visits).map CycleRun.position =
      (List.range' n (cyclesUnder key visits).length).map (· % k) := by
  induction visits generalizing first n with
  | nil => rfl
  | cons visit rest ih =>
    obtain ⟨rfl, hrest⟩ := h
    cases hvisit : visit.cycle?.filter fun run => run.key = key with
    | none =>
      have hcycles : cyclesUnder key (visit :: rest) = cyclesUnder key rest :=
        List.filterMap_cons_none hvisit
      rw [hcycles] at hlength ⊢
      exact ih hrest hlength (standsAt_of_other hvisit hfirst)
    | some run =>
      have hcycles : cyclesUnder key (visit :: rest) = run :: cyclesUnder key rest :=
        List.filterMap_cons_some hvisit
      rw [hcycles] at hlength ⊢
      obtain ⟨hposition, hnext⟩ :=
        standsAt_of_cycle hvisit (hlength run List.mem_cons_self) hk hfirst
      rw [List.map_cons, List.length_cons, List.range'_succ, List.map_cons, hposition,
        ih hrest (fun run' hrun' => hlength run' (List.mem_cons_of_mem run hrun')) hnext]

end Visit

/-- The turns of cycles with `k` values. Where no position is kept to begin with, and all cycles
that are rendered under a key have `k` values, the cycle that is rendered under it as number `j`,
counted from zero, emits its value number `j` modulo `k`. The cycles may stand in any templates of
the session and at any place in them, and it does not matter what is rendered in between.

From whatever is in the register, the position of a cycle is one of the numbers below `k`; its value
is emitted, and kept is the position behind it, or the first behind the last. No list has more
values than there are positions that can be remembered. -/
theorem Session.cycles_take_turns {k : Nat} (hk : k ≤ LoopHeader.maxPosition) :
    (∀ (session : Session) (c : Context) (key : String), c.register Cycle.positions = .nil →
      (∀ run ∈ session.cycles key c, run.cycle.values.length = k) →
      ∀ (j : Nat) (run : CycleRun), (session.cycles key c)[j]? = some run →
        run.cycle.Emits run.context (j % k))
    ∧ ∀ (cycle : Cycle) (c : Context), cycle.values.length = k →
      cycle.position c < k
      ∧ cycle.Emits c (cycle.position c)
      ∧ ∃ i : Int64, i.toInt = ((cycle.position c + 1) % k : Nat)
        ∧ ((Node.cycle cycle).render c).2.registerEntry Cycle.positions (cycle.keyIn c) =
          .integer i := by
  constructor
  · intro session c key hunset hlength j run hrun
    obtain ⟨last, hchained⟩ := session.visits_chained c
    have hpositions := hchained.map_position hk hlength (Cycle.standsAt_zero hunset)
    change (session.cycles key c).map _ = (List.range' 0 (session.cycles key c).length).map _
      at hpositions
    -- entry `j` of both lists of positions
    have hentry := congrArg (·[j]?) hpositions
    have hlt : j < (session.cycles key c).length := (List.getElem?_eq_some_iff.1 hrun).1
    simp only [List.getElem?_map, hrun, List.getElem?_range' hlt, Option.map_some, Nat.one_mul,
      Nat.zero_add, Option.some.injEq] at hentry
    rw [← hentry]
    exact run.cycle.emits_position run.context
  · rintro cycle c rfl
    refine ⟨cycle.position_lt c, cycle.emits_position c, ?_⟩
    obtain ⟨i, hkept, hi⟩ :=
      Cycle.exists_ofNat_mod cycle.length_values_pos hk (cycle.position c + 1)
    refine ⟨i, hi, ?_⟩
    rw [Node.render]
    show (cycle.step c).2.registerEntry Cycle.positions (cycle.keyIn c) = .integer i
    rw [Cycle.registerEntry_step, if_pos rfl, hkept]

/-- A cycle with the group `ab` in a loop, another cycle in between, and in a template of its own a
cycle without a group whose values are written `a` and `b`: its render is the third under `ab`. From
a position that is negative, a cycle begins at its first value. -/
theorem Session.cycles_take_turns_templates :
    let first : Expression := .literal (.string "1")
    let second : Expression := .literal (.string "2")
    let grouped : Cycle := ⟨some (.literal (.string "ab")), "12", first, [second]⟩
    let ungrouped : Cycle := ⟨none, "ab", .path "a" [] "a", [.path "b" [] "b"]⟩
    let other : Cycle := ⟨none, "121", first, [second, first]⟩
    let header : LoopHeader := ⟨"i", .array [first, second], "i-['1','2']", [], false⟩
    let template : Template := ⟨none, [.loop header [.cycle grouped, .cycle other] []]⟩
    let session : Session :=
      [([], template), ([("a", .integer 7)], ⟨none, [.cycle ungrouped]⟩)]
    let c : Context := ⟨[[]], [], [], .none⟩
    let last : CycleRun := ⟨ungrouped, (template.render c).2.merge [("a", .integer 7)]⟩
    let negative : Context := ⟨[[]], [("cycle", .dict [("ab", .integer (-3))])], [], .none⟩
    2 ≤ LoopHeader.maxPosition
      ∧ c.register Cycle.positions = .nil
      ∧ (∀ run ∈ session.cycles "ab" c, run.cycle.values.length = 2)
      ∧ (session.cycles "ab" c)[2]? = some last
      ∧ ungrouped.Emits last.context 0
      ∧ ungrouped.values.length = 2
      ∧ ungrouped.position negative = 0
      ∧ ungrouped.Emits negative 0
      ∧ ∃ i : Int64, i.toInt = 1
        ∧ ((Node.cycle ungrouped).render negative).2.registerEntry Cycle.positions "ab" =
          .integer i := by
  intro first second grouped ungrouped other header template session c last negative
  have hk : 2 ≤ LoopHeader.maxPosition := by decide
  have hlengths : (session.cycles "ab" c).map (·.cycle.values.length) = [2, 2, 2] := by
    dsimp +zetaDelta only
    exact rfl
  have hlength : ∀ run ∈ session.cycles "ab" c, run.cycle.values.length = 2 := by
    intro run hrun
    have hmem := List.mem_map_of_mem (f := fun run => run.cycle.values.length) hrun
    rw [hlengths] at hmem
    simpa using hmem
  have hlast : (session.cycles "ab" c)[2]? = some last := by
    dsimp +zetaDelta only
    exact rfl
  have hposition : ungrouped.position negative = 0 := by
    dsimp +zetaDelta only
    exact rfl
  obtain ⟨hturns, hkept⟩ := cycles_take_turns hk
  obtain ⟨-, hemits, i, hi, hentry⟩ := hkept ungrouped negative rfl
  rw [hposition] at hemits hi
  exact ⟨hk, rfl, hlength, hlast, hturns session c "ab" rfl hlength 2 last hlast, rfl, hposition,
    hemits, i, hi, hentry⟩

end Liquid
