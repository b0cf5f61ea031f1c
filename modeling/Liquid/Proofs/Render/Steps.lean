import Liquid.Rendering

/-!
# Repetitions step by step

A repetition told by its steps: in which context each of them is rendered, and what it gives. Both
depend on the steps in front of it only, whatever the number of steps is.

- `Rendering.reached`, `Rendering.outcome`: the context in front of a step, and what it gives.
- `Rendering.times_of_ok`: where no step fails, the outputs are put together.
- `Rendering.times_of_error`: the first step that fails is the last one that is rendered.
- `Rendering.reached_enclosed`, `Rendering.outcome_enclosed`: text around the steps.
-/

namespace Liquid.Rendering

variable (step : Nat → Rendering) (c : Context)

/-- The context in front of a step: that which the steps in front of it leave. -/
def reached : Nat → Context
  | 0 => c
  | k + 1 => (step k (reached k)).2

/-- What a step gives, when it comes to it. -/
def outcome (k : Nat) : Except Error String := (step k (reached step c k)).1

variable {step : Nat → Rendering} {c : Context}

theorem timesBehind_of_ok {outputs : Nat → String} {n i : Nat} (before : String)
    (h : ∀ k, i ≤ k → k < i + n → outcome step c k = .ok (outputs k)) :
    timesBehind step n i before (reached step c i) =
      (.ok (before ++ String.join ((List.range' i n).map outputs)), reached step c (i + n)) := by
  induction n generalizing i before with
  | zero => rw [timesBehind, List.range'_zero, List.map_nil, String.join_nil, String.append_empty,
      Nat.add_zero]
  | succ n ih =>
    have hstep : step i (reached step c i) = (.ok (outputs i), reached step c (i + 1)) :=
      Prod.ext (h i (Nat.le_refl i) (by omega)) rfl
    have hrest := ih (i := i + 1) (before ++ outputs i) fun k hk hlt => h k (by omega) (by omega)
    rw [timesBehind, hstep, List.range'_succ, List.map_cons, String.join_cons]
    simp only [hrest, String.append_assoc]
    rw [show i + 1 + n = i + (n + 1) by omega]

/-- Where no step fails, the outputs stand one behind the other. -/
theorem times_of_ok {outputs : Nat → String} {n : Nat}
    (h : ∀ k < n, outcome step c k = .ok (outputs k)) :
    times n step c = (.ok (String.join ((List.range n).map outputs)), reached step c n) := by
  have hbehind := timesBehind_of_ok (i := 0) (n := n) "" fun k _ hk => h k (by omega)
  rwa [Nat.zero_add, String.empty_append, ← List.range_eq_range'] at hbehind

theorem timesBehind_of_error {n i k : Nat} {e : Error} (before : String) (hik : i ≤ k)
    (hk : k < i + n) (hfront : ∀ j, i ≤ j → j < k → ∃ output, outcome step c j = .ok output)
    (h : outcome step c k = .error e) :
    timesBehind step n i before (reached step c i) = (.error e, reached step c (k + 1)) := by
  induction n generalizing i before with
  | zero => omega
  | succ n ih =>
    by_cases heq : i = k
    · subst heq
      have hstep : step i (reached step c i) = (.error e, reached step c (i + 1)) := Prod.ext h rfl
      rw [timesBehind, hstep]
    · obtain ⟨output, houtput⟩ := hfront i (Nat.le_refl i) (by omega)
      have hstep : step i (reached step c i) = (.ok output, reached step c (i + 1)) :=
        Prod.ext houtput rfl
      have hrest := ih (i := i + 1) (before ++ output) (by omega) (by omega)
        fun j hj => hfront j (by omega)
      rw [timesBehind, hstep]
      exact hrest

/-- The first step that fails ends the repetition, and the outputs in front of it are lost. -/
theorem times_of_error {n k : Nat} {e : Error} (hk : k < n)
    (hfront : ∀ j < k, ∃ output, outcome step c j = .ok output)
    (h : outcome step c k = .error e) : times n step c = (.error e, reached step c (k + 1)) :=
  timesBehind_of_error "" (Nat.zero_le k) (by omega) (fun j _ hj => hfront j hj) h

/-! ### Text around steps -/

/-- Renders a step with text in front of it and behind it. -/
def enclosed (front back : Nat → String) (step : Nat → Rendering) (k : Nat) : Rendering :=
  (emit (front k)).andThen ((step k).andThen (emit (back k)))

variable {front back : Nat → String}

theorem enclosed_eq (k : Nat) (c : Context) :
    enclosed front back step k c =
      ((step k c).1.map fun output => front k ++ (output ++ back k), (step k c).2) := by
  simp only [enclosed, andThen, emit]
  rcases step k c with ⟨e | output, d⟩
  · rfl
  · rfl

/-- Text changes no context. -/
theorem reached_enclosed (k : Nat) : reached (enclosed front back step) c k = reached step c k := by
  induction k with
  | zero => rfl
  | succ k ih => rw [reached, reached, enclosed_eq, ih]

theorem outcome_enclosed (k : Nat) :
    outcome (enclosed front back step) c k =
      (outcome step c k).map fun output => front k ++ (output ++ back k) := by
  rw [outcome, outcome, reached_enclosed, enclosed_eq]

end Liquid.Rendering
