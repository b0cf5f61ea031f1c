import Liquid.Proofs.Context.Trail

/-!
# Programs that open and close scopes

A body that runs in a scope of its own may itself open and close scopes, and run further bodies.
When it ends, the innermost scope is closed, whichever that is. This is the scope of the body as
long as the body has not closed it itself.

- `Context.Operation`: an action, or a body in a scope of its own; `Operation.states` lists the
  contexts behind all steps of it.
- `Operation.heightFrom`: the number of scopes that operations open and do not close. There is none
  if they close a scope that they have not opened.
- `Operation.Over.runAll`: operations of a body that have one leave the scopes around it alone.
- `Operation.keeps_scopes`: a program in which this holds of all bodies never runs out of scopes.
- `Operation.closes_global_scope`: a body that closes its scope leaves a new context without any.
-/

namespace Liquid.Context

/-- A step of a program. -/
inductive Operation where
  /-- An action. -/
  | act (a : Action)
  /-- A body in a scope of its own, and what it ends in. -/
  | stack (body : List Operation) (ending : Except Error String)

namespace Operation

mutual

/-- Does an operation. -/
def run : Operation → Rendering
  | act a => a.run
  | stack body ending => Rendering.inScope fun c => (ending, runAll body c)

/-- The context behind operations that are done one after the other. -/
def runAll : List Operation → Context → Context
  | [], c => c
  | op :: rest, c => runAll rest (op.run c).2

end

mutual

/-- The contexts behind each step of an operation, the steps of its body included. -/
def states : Operation → Context → List Context
  | act a, c => [(a.run c).2]
  | stack body ending, c =>
    c.push :: (statesAll body c.push ++ [((stack body ending).run c).2])

/-- The contexts behind each step of operations that are done one after the other. -/
def statesAll : List Operation → Context → List Context
  | [], _ => []
  | op :: rest, c => op.states c ++ statesAll rest (op.run c).2

end

mutual

/-- The number of scopes that are open behind an operation, from their number in front of it, where
only those count that were opened in the same body. There is none if a body closes a scope that it
has not opened. -/
def heightFrom : Operation → Nat → Option Nat
  | act .push, height => some (height + 1)
  | act .pop, 0 => none
  | act .pop, height + 1 => some height
  | act (.set ..), height | act (.merge _), height | act (.setRegister ..), height
  | act (.setRegisterEntry ..), height => some height
  | stack body _, height => (heightAll body 0).map (height + ·)

/-- The same for operations that are done one after the other. -/
def heightAll : List Operation → Nat → Option Nat
  | [], height => some height
  | op :: rest, height => (op.heightFrom height).bind (heightAll rest)

end

/-- Whatever holds of all steps of a body in a scope of its own holds where the scope is opened, in
the body, and where the scope is closed. -/
theorem forall_states_stack {p : Context → Prop} {body : List Operation}
    {ending : Except Error String} {c : Context} :
    (∀ d ∈ (stack body ending).states c, p d) ↔
      p c.push ∧ (∀ d ∈ statesAll body c.push, p d) ∧ p ((stack body ending).run c).2 := by
  rw [states, List.forall_mem_cons, List.forall_mem_append, List.forall_mem_singleton]

/-! ### Bodies -/

/-- In a context, `n` scopes stand in front of those of `base`. -/
def Over (base : List (Keyed Value)) (n : Nat) (c : Context) : Prop :=
  ∃ front, c.scopes = front ++ base ∧ front.length = n

variable {base : List (Keyed Value)} {n height height' : Nat} {c d : Context}

theorem Over.depth_eq (h : Over base n c) : c.depth = n + base.length := by
  obtain ⟨front, hscopes, rfl⟩ := h
  rw [depth, hscopes, List.length_append]

theorem over_push (c : Context) : Over c.scopes 1 c.push := ⟨[[]], rfl, rfl⟩

theorem Over.leave (h : Over base (n + 1) c) : Over base n c.leave := by
  obtain ⟨front, hscopes, hlength⟩ := h
  cases front with
  | nil => cases hlength
  | cons inner front =>
    refine ⟨front, ?_, Nat.succ.inj hlength⟩
    rw [Context.leave, hscopes]
    rfl

theorem Over.trans {n' : Nat} (h : Over d.scopes n' c) (h' : Over base n d) :
    Over base (n + n') c := by
  obtain ⟨inner, hinner, rfl⟩ := h
  obtain ⟨outer, houter, rfl⟩ := h'
  refine ⟨inner ++ outer, ?_, ?_⟩
  · rw [hinner, houter, List.append_assoc]
  · rw [List.length_append, Nat.add_comm]

theorem Over.merge (h : Over base (n + 1) c) (values : List (String × Value)) :
    Over base (n + 1) (c.merge values) := by
  obtain ⟨front, hscopes, hlength⟩ := h
  cases front with
  | nil => cases hlength
  | cons inner front => exact ⟨_ :: front, scopes_merge hscopes values, hlength⟩

/-- In a body, an action keeps to the scope of the body and to those that the body has opened. -/
theorem Over.act (a : Action) (h : Over base (height + 1) c)
    (hheight : (act a).heightFrom height = some height') :
    Over base (height' + 1) (a.run c).2 := by
  cases a with
  | push =>
    cases hheight
    exact (over_push c).trans h
  | pop =>
    cases height with
    | zero => cases hheight
    | succ height =>
      cases hheight
      have hdepth := h.depth_eq
      rw [Action.run_pop, if_pos (by omega)]
      exact h.leave
  | set name value =>
    cases hheight
    exact h.merge [(name, value)]
  | merge values =>
    cases hheight
    exact h.merge values
  | setRegister | setRegisterEntry =>
    cases hheight
    exact h

mutual

/-- In a body, an operation keeps to the scope of the body and to those that the body has opened,
and so do all its steps. -/
theorem Over.run : (op : Operation) → ∀ {c : Context} {base height height'},
    Over base (height + 1) c → op.heightFrom height = some height' →
      Over base (height' + 1) (op.run c).2 ∧ ∀ d ∈ op.states c, base.length < d.depth
  | .act a, c, base, height, height', h, hheight => by
    have hact := h.act a hheight
    refine ⟨hact, fun d hd => ?_⟩
    rw [List.mem_singleton.1 hd]
    have hdepth := hact.depth_eq
    omega
  | .stack body ending, c, base, height, height', h, hheight => by
    obtain ⟨opened, hbody, rfl⟩ := Option.map_eq_some_iff.1 hheight
    obtain ⟨hinner, hsteps⟩ := Over.runAll body (over_push c) hbody
    -- the scope that is closed is the innermost of those that the body has left
    have hend : Over base (height + 1 + opened) ((stack body ending).run c).2 :=
      hinner.leave.trans h
    have hfront : c.scopes.length = height + 1 + base.length := h.depth_eq
    refine ⟨Nat.add_right_comm height 1 opened ▸ hend, forall_states_stack.2 ⟨?_, ?_, ?_⟩⟩
    · have hpush := (over_push c).depth_eq
      omega
    · intro d hd
      have hstep := hsteps d hd
      omega
    · have hbehind := hend.depth_eq
      omega

theorem Over.runAll : (ops : List Operation) → ∀ {c : Context} {base height height'},
    Over base (height + 1) c → heightAll ops height = some height' →
      Over base (height' + 1) (Operation.runAll ops c)
        ∧ ∀ d ∈ statesAll ops c, base.length < d.depth
  | [], c, base, height, height', h, hheight => by
    cases hheight
    exact ⟨h, fun d hd => by cases hd⟩
  | op :: rest, c, base, height, height', h, hheight => by
    obtain ⟨middle, hfirst, hrest⟩ := Option.bind_eq_some_iff.1 hheight
    obtain ⟨hop, hsteps⟩ := Over.run op h hfirst
    obtain ⟨hend, hothers⟩ := Over.runAll rest hop hrest
    refine ⟨hend, fun d hd => ?_⟩
    rcases List.mem_append.1 hd with hd | hd
    · exact hsteps d hd
    · exact hothers d hd

end

/-! ### Programs -/

/-- No body of an operation closes a scope that it has not opened. -/
def Contained : Operation → Prop
  | act _ => True
  | stack body _ => ∃ opened, heightAll body 0 = some opened

/-- Behind a body that closes no scope but those that it has opened, the scopes that were there are
as they were, and in front of them stand those that the body has not closed. -/
theorem over_stack {body : List Operation} {opened : Nat} (h : heightAll body 0 = some opened)
    (ending : Except Error String) (c : Context) :
    Over c.scopes opened ((stack body ending).run c).2 :=
  (Over.runAll body (over_push c) h).1.leave

theorem Contained.depth_pos {op : Operation} (h : op.Contained) (hdepth : 0 < c.depth) :
    0 < (op.run c).2.depth ∧ ∀ d ∈ op.states c, 0 < d.depth := by
  cases op with
  | act a =>
    have hrun : 0 < (a.run c).2.depth := by
      rw [Action.depth_run]
      exact a.depthFrom_pos hdepth
    refine ⟨hrun, fun d hd => ?_⟩
    rw [List.mem_singleton.1 hd]
    exact hrun
  | stack body ending =>
    obtain ⟨opened, hbody⟩ := h
    obtain ⟨-, hsteps⟩ := Over.runAll body (over_push c) hbody
    have hrun : 0 < ((stack body ending).run c).2.depth := by
      rw [(over_stack hbody ending c).depth_eq]
      exact Nat.lt_of_lt_of_le hdepth (Nat.le_add_left _ _)
    refine ⟨hrun, forall_states_stack.2 ⟨Nat.succ_pos _, ?_, hrun⟩⟩
    intro d hd
    exact Nat.lt_of_le_of_lt (Nat.zero_le _) (hsteps d hd)

/-- A program in which no body closes a scope that it has not opened has a scope behind every step,
and a `pop` of the last one fails and changes nothing. Every body leaves the scopes that were there
before it as they were, and in front of them those that it has opened and not closed. -/
theorem keeps_scopes {program : List Operation} (hprogram : ∀ op ∈ program, op.Contained)
    (hdepth : 0 < c.depth) :
    (∀ d ∈ c :: statesAll program c, 0 < d.depth)
      ∧ (∀ d ∈ c :: statesAll program c, d.depth = 1 →
        Action.pop.run d = (.error .globalScope, d))
      ∧ ∀ body ending, .stack body ending ∈ program → ∀ d : Context, ∃ opened,
        heightAll body 0 = some opened ∧ Over d.scopes opened ((stack body ending).run d).2 := by
  refine ⟨?_, fun d _ hd => ?_, fun body ending hmem d => ?_⟩
  · induction program generalizing c with
    | nil => exact List.forall_mem_singleton.2 hdepth
    | cons op rest ih =>
      obtain ⟨hrun, hstates⟩ := (hprogram op List.mem_cons_self).depth_pos hdepth
      have hrest := ih (fun other h => hprogram other (List.mem_cons_of_mem op h)) hrun
      refine List.forall_mem_cons.2 ⟨hdepth, fun d hd => ?_⟩
      rcases List.mem_append.1 hd with hd | hd
      · exact hstates d hd
      · exact hrest d (List.mem_cons_of_mem _ hd)
  · rw [Action.run_pop, if_neg (by omega)]
  · obtain ⟨opened, hbody⟩ := hprogram _ hmem
    exact ⟨opened, hbody, over_stack hbody ending d⟩

/-- A body opens two scopes, and a body in it one more; they close two of the three. -/
theorem keeps_scopes_nested :
    let program : List Operation :=
      [.stack [.act .push, .stack [.act .push, .act .pop] (.ok ""), .act .push, .act .pop]
        (.error (.render "stopped"))]
    let c := withFilters []
    (∀ op ∈ program, op.Contained) ∧ 0 < c.depth
      ∧ ∀ d ∈ c :: statesAll program c, 0 < d.depth := by
  intro program c
  have hprogram : ∀ op ∈ program, op.Contained := List.forall_mem_singleton.2 ⟨1, rfl⟩
  have hdepth : 0 < c.depth := Nat.zero_lt_one
  exact ⟨hprogram, hdepth, (keeps_scopes hprogram hdepth).1⟩

/-- A body closes the scope that it runs in, and at its end the global scope is closed. -/
theorem closes_global_scope :
    let c := withFilters []
    let program : List Operation := [.stack [.act .pop] (.ok "")]
    c.depth = 1 ∧ (Operation.runAll program c).depth = 0
      ∧ ¬ ∀ (program : List Operation) (filters : FilterRegistry),
        ∀ d ∈ statesAll program (withFilters filters), 1 ≤ d.depth := by
  intro c program
  refine ⟨rfl, rfl, fun h => ?_⟩
  have hend := h program [] (Operation.runAll program c) (List.mem_of_mem_getLast? rfl)
  exact absurd hend (by decide)

end Operation

end Liquid.Context
