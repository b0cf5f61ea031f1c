import Liquid.Context

/-!
# Renderings

A rendering takes a context to its output and to the context it leaves behind. It may fail, and
leaves a context behind then, too.

- `Rendering.emit`, `Rendering.fail`: output without effect, and an error.
- `Rendering.andThen`: one rendering after another, with the outputs put together.
- `Rendering.inScope`: a rendering in a scope of its own, which ends also when it fails.
- `Rendering.each`: a rendering for every item of a list, one after the other.
- `Rendering.times`: a rendering for every number below a bound, one after the other. What comes
  behind a failure is not even counted.
-/

namespace Liquid

/-- From a context to an output or an error, and the context left behind. -/
abbrev Rendering := Context → Except Error String × Context

namespace Rendering

/-- Gives an output and changes nothing. -/
def emit (output : String) : Rendering := fun c => (.ok output, c)

/-- Fails and changes nothing. -/
def fail (error : Error) : Rendering := fun c => (.error error, c)

/-- Changes the context first. -/
def after (change : Context → Context) (a : Rendering) : Rendering := fun c => a (change c)

/-- Renders `a` and then `b`, which does not come to it if `a` fails. -/
def andThen (a b : Rendering) : Rendering := fun c =>
  match a c with
  | (.ok first, c) =>
    match b c with
    | (.ok second, c) => (.ok (first ++ second), c)
    | (.error e, c) => (.error e, c)
  | (.error e, c) => (.error e, c)

/-- Renders in a new scope, and ends that scope. -/
def inScope (a : Rendering) : Rendering := fun c =>
  let result := a c.push
  (result.1, result.2.leave)

/-- Changes the output. -/
def mapOutput (f : String → String) (a : Rendering) : Rendering := fun c =>
  let result := a c
  (result.1.map f, result.2)

/-- Binds the output to a name, and has none itself. If it fails, nothing is bound. -/
def bindTo (name : String) (a : Rendering) : Rendering := fun c =>
  match a c with
  | (.ok output, c) => (.ok "", c.set name (.string output))
  | (.error e, c) => (.error e, c)

/-- Renders for every item in turn, behind the output `before`. -/
def eachBehind {α : Type} (f : α → Rendering) : List α → String → Rendering
  | [], before, c => (.ok before, c)
  | x :: rest, before, c =>
    match f x c with
    | (.ok output, c) => eachBehind f rest (before ++ output) c
    | (.error e, c) => (.error e, c)

/-- Renders for every item in turn. -/
def each {α : Type} (f : α → Rendering) (items : List α) : Rendering := eachBehind f items ""

/-- Renders for `n` numbers from `i` on, behind the output `before`. -/
def timesBehind (f : Nat → Rendering) : (n i : Nat) → String → Rendering
  | 0, _, before, c => (.ok before, c)
  | n + 1, i, before, c =>
    match f i c with
    | (.ok output, c) => timesBehind f n (i + 1) (before ++ output) c
    | (.error e, c) => (.error e, c)

/-- Renders for every number below `n`. -/
def times (n : Nat) (f : Nat → Rendering) : Rendering := timesBehind f n 0 ""

@[simp] theorem emit_empty_andThen (a : Rendering) : (emit "").andThen a = a := by
  funext c
  simp only [andThen, emit]
  rcases a c with ⟨e | output, c'⟩
  · rfl
  · simp only [String.empty_append]

@[simp] theorem andThen_emit_empty (a : Rendering) : a.andThen (emit "") = a := by
  funext c
  simp only [andThen, emit]
  rcases a c with ⟨e | output, c'⟩
  · rfl
  · simp only [String.append_empty]

theorem eachBehind_map {α β : Type} (f : β → Rendering) (g : α → β) (items : List α)
    (before : String) : eachBehind f (items.map g) before = eachBehind (f ∘ g) items before := by
  induction items generalizing before with
  | nil => rfl
  | cons x items ih =>
    funext c
    simp only [List.map_cons, eachBehind, Function.comp_apply, ih]

theorem timesBehind_eq_eachBehind (f : Nat → Rendering) (n i : Nat) (before : String) :
    timesBehind f n i before = eachBehind f (List.range' i n) before := by
  induction n generalizing i before with
  | zero => rfl
  | succ n ih =>
    funext c
    simp only [timesBehind, List.range'_succ, eachBehind, ih]

/-- Counting renders the same as going over the list of the numbers. -/
theorem times_eq_each (n : Nat) (f : Nat → Rendering) : times n f = each f (List.range n) := by
  rw [times, each, timesBehind_eq_eachBehind, List.range_eq_range']

end Rendering

end Liquid
