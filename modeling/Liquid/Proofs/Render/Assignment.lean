import Liquid.Proofs.Expression.Forms
import Liquid.Proofs.Expression.Literals
import Liquid.Proofs.Expression.Paths
import Liquid.Proofs.Filter.DropFree
import Liquid.Proofs.Render.Agreement
import Liquid.Template.Render

/-!
# Assigning a part of a pipeline

What stands in a pipeline may be given a name first: the rest says the same of the name. A path may
be cut anywhere, although the end of a path can ask for a `size` that no other place gives, and a
pipeline between any two filters.

- `Pipeline.applyAll_append`, `Pipeline.applyAll_set`: filters in two steps, and behind a binding of
  a name that their arguments do not read.
- `Pipeline.dropFree_of_evaluate`: no drop is assigned where none is written or made by a filter.
- `Pipeline.evaluateBehind`: a pipeline behind an `assign`.
- `assign_as_let`: `assign` in front of the rest.
- `assign_ne_let`: a drop of a filter that gives way to what it stands for, and a name that is a
  keyword.
-/

namespace Liquid

namespace Expression

variable {c : Context}

/-! ### Names that are not read -/

theorem root_set_of_notMem {name : String} {value : Value} (hdepth : 0 < c.depth)
    {names : List String} (hname : name ∉ names) :
    ∀ other ∈ names, c.root other = (c.set name value).root other := by
  intro other hother
  rw [Context.root_set hdepth, if_neg]
  rintro rfl
  exact hname hother

/-- An expression has the same value behind a binding of a name that it does not read. -/
theorem evaluate_set {name : String} {value : Value} {e : Expression} (hc : c.DropFree)
    (hdepth : 0 < c.depth) (he : e.DropFree) (hname : name ∉ e.roots) :
    e.evaluate (c.set name value) = e.evaluate c :=
  (evaluate_eq hc he (root_set_of_notMem hdepth hname)).1.symm

/-- The rest of a path behind a name that is bound to the value of its beginning. -/
theorem evaluate_path_set {name root raw raw' raw'' : String} {segments rest : List Segment}
    (hc : c.DropFree) (hdepth : 0 < c.depth) (hsegments : (path root segments raw).DropFree)
    (hrest : (path name rest raw').DropFree) (hname : name ∉ rootsOfSegments rest) :
    (path name rest raw').evaluate (c.set name ((path root segments raw).evaluate c)) =
      (path root (segments ++ rest) raw'').evaluate c := by
  have hvalue := (evaluate_eq hc hsegments fun _ _ => rfl).2
  generalize hv : (path root segments raw).evaluate c = v at hvalue
  rw [evaluate, evaluateBy] at hv
  rw [evaluate, evaluate, evaluateBy, evaluateBy,
    followBy_append segments rest (hc.root root), hv, Context.root_set hdepth, if_pos rfl]
  exact (followBy_eq hc.root rest hrest (root_set_of_notMem hdepth hname) v hvalue).1.symm

end Expression

/-! ### Filters -/

namespace Pipeline

/-- Filters are applied in two steps. -/
theorem applyAll_append (c : Context) (first second : List FilterCall) (v : Value) :
    applyAll c (first ++ second) v = (applyAll c first v).bind (applyAll c second) := by
  induction first generalizing v with
  | nil => rfl
  | cons call rest ih =>
    rw [List.cons_append, applyAll, applyAll]
    cases c.filters.apply call.name v (call.arguments.map (·.evaluate c)) with
    | error e => rfl
    | ok next => exact ih next

/-- Filters do the same behind a binding of a name that their arguments do not read. -/
theorem applyAll_set {c : Context} (hc : c.DropFree) (hdepth : 0 < c.depth) {name : String}
    {value : Value} {calls : List FilterCall}
    (hcalls : ∀ call ∈ calls, ∀ e ∈ call.arguments, e.DropFree ∧ name ∉ e.roots) (v : Value) :
    applyAll (c.set name value) calls v = applyAll c calls v := by
  induction calls generalizing v with
  | nil => rfl
  | cons call rest ih =>
    have harguments : call.arguments.map (·.evaluate (c.set name value)) =
        call.arguments.map (·.evaluate c) := by
      refine List.map_congr_left fun e he => ?_
      obtain ⟨hfree, hname⟩ := hcalls call List.mem_cons_self e he
      exact Expression.evaluate_set hc hdepth hfree hname
    rw [applyAll, applyAll, Context.filters_set, harguments]
    cases c.filters.apply call.name v (call.arguments.map (·.evaluate c)) with
    | error e => rfl
    | ok next => exact ih (fun call hcall => hcalls call (List.mem_cons_of_mem _ hcall)) next

/-- Where no drop is written or made by a filter, none comes out of a pipeline. -/
theorem dropFree_of_evaluate {c : Context} (hc : c.DropFree) (hdepth : 0 < c.depth)
    (hfilters : c.filters.KeepsDropFree) {p : Pipeline} (hp : ∀ e ∈ p.expressions, e.DropFree)
    {v : Value} (hv : p.evaluate c = .ok v) : v.DropFree := by
  have hagree : c.Agree p.expressions c :=
    { literals := hp
      keepsDropFree := hfilters
      filters := rfl
      registers := rfl
      roots := fun _ _ _ _ => rfl
      left := hc
      right := hc
      leftDepth := hdepth
      rightDepth := hdepth }
  exact ((Context.Agree.congruence p.expressions).pipeline_eq hagree (List.Subset.refl _)).2 v hv

/-- What a pipeline gives behind an `assign` of another one; the error, if the `assign` fails. -/
def evaluateBehind (name : String) (assigned p : Pipeline) (c : Context) : Except Error Value :=
  match (Node.assign name assigned).render c with
  | (.ok _, d) => p.evaluate d
  | (.error e, _) => .error e

theorem evaluateBehind_eq (name : String) (assigned p : Pipeline) (c : Context) :
    evaluateBehind name assigned p c =
      (assigned.evaluate c).bind fun v => p.evaluate (c.set name v) := by
  unfold evaluateBehind
  rw [Node.render]
  dsimp only
  cases assigned.evaluate c <;> rfl

end Pipeline

/-! ### The law -/

/-- `assign` gives a name to what stands in front of the rest. A path may be cut anywhere, and the
rest begin with the name. A pipeline may be cut between any two filters, and the rest begin with the
name, as long as no filter of the host has made a drop there that gives way to another value; the
standard ones make no drops (`Pipeline.dropFree_of_evaluate`). The name must not be read by the rest
otherwise. -/
theorem assign_as_let {c : Context} (hc : c.DropFree) (hdepth : 0 < c.depth) (name : String) :
    (∀ (root : String) (segments rest : List Segment) (raw raw' raw'' : String),
      (Expression.path root segments raw).DropFree → (Expression.path name rest raw').DropFree →
      name ∉ Expression.rootsOfSegments rest →
      Pipeline.evaluateBehind name ⟨some (.path root segments raw), []⟩
          ⟨some (.path name rest raw'), []⟩ c =
        .ok ((Expression.path root (segments ++ rest) raw'').evaluate c)) ∧
    ∀ (base : Option Expression) (first second : List FilterCall) (raw : String),
      (∀ v, Pipeline.evaluate ⟨base, first⟩ c = .ok v → v.normalize = v) →
      (∀ call ∈ second, ∀ e ∈ call.arguments, e.DropFree ∧ name ∉ e.roots) →
      Pipeline.evaluateBehind name ⟨base, first⟩ ⟨some (.path name [] raw), second⟩ c =
        Pipeline.evaluate ⟨base, first ++ second⟩ c := by
  refine ⟨fun root segments rest raw raw' raw'' hsegments hrest hname => ?_,
    fun base first second raw hvalue hcalls => ?_⟩
  · rw [Pipeline.evaluateBehind_eq]
    exact congrArg Except.ok (Expression.evaluate_path_set hc hdepth hsegments hrest hname)
  · rw [Pipeline.evaluateBehind_eq]
    have hall : Pipeline.evaluate ⟨base, first ++ second⟩ c =
        (Pipeline.evaluate ⟨base, first⟩ c).bind (Pipeline.applyAll c second) :=
      Pipeline.applyAll_append c first second _
    rw [hall]
    cases hfirst : Pipeline.evaluate ⟨base, first⟩ c with
    | error e => rfl
    | ok v =>
      show Pipeline.applyAll (c.set name v) second ((Expression.path name [] raw).evaluate _) = _
      rw [Expression.evaluate_name, Context.root_set hdepth, if_pos rfl, hvalue v hfirst]
      exact Pipeline.applyAll_set hc hdepth hcalls v

/-- The number of items of a list that a name is given to, and the least of them. -/
theorem assign_as_let_items :
    let c : Context :=
      ⟨[[("a", .dict [("b", .list [.integer 3, .integer 1])])]], [], FilterRegistry.standard, .none⟩
    Pipeline.evaluateBehind "t" ⟨some (.path "a" [.key "b"] "a.b"), []⟩
        ⟨some (.path "t" [.key "size"] "t.size"), []⟩ c = .ok (.integer 2) ∧
      Pipeline.evaluateBehind "t" ⟨some (.path "a" [.key "b"] "a.b"), [⟨"sort", []⟩]⟩
        ⟨some (.path "t" [] "t"), [⟨"first", []⟩]⟩ c = .ok (.integer 1) := by
  intro c
  have hc : c.DropFree := by
    intro scope hscope entry hentry
    rw [List.mem_singleton.1 hscope] at hentry
    rw [List.mem_singleton.1 hentry]
    refine .dict fun entry hentry => ?_
    rw [List.mem_singleton.1 hentry]
    refine .list fun v hv => ?_
    simp only [List.mem_cons, List.not_mem_nil, or_false] at hv
    rcases hv with rfl | rfl
    · exact .integer 3
    · exact .integer 1
  have law := assign_as_let hc (by decide) "t"
  refine ⟨?_, ?_⟩
  · exact (law.1 "a" [.key "b"] [.key "size"] "a.b" "t.size" "a.b.size" ⟨trivial, trivial⟩
      ⟨trivial, trivial⟩ (by decide)).trans (by rfl)
  · refine (law.2 (some (.path "a" [.key "b"] "a.b")) [⟨"sort", []⟩] [⟨"first", []⟩] "t"
      (fun v hv => ?_) (by simp)).trans (by rfl)
    refine (Pipeline.dropFree_of_evaluate hc (by decide) FilterRegistry.keepsDropFree_standard
      (fun e he => ?_) hv).normalize_eq
    rw [List.mem_singleton.1 he]
    exact ⟨trivial, trivial⟩

/-- An `assign` is no `let` in two cases. A filter makes an object that stands for a number: the
next filter gets the object, but behind an `assign` it gets the number. And `assign` takes a keyword
for a name, which the rest reads as the keyword again. -/
theorem assign_ne_let :
    let make : Filter := fun _ _ => .ok (.drop ⟨0, "", fun _ => false, some (.integer 5)⟩)
    let c : Context :=
      ⟨[[("a", .integer 0)]], [], ("make", make) :: FilterRegistry.standard, .none⟩
    let made : Pipeline := ⟨some (.path "a" [] "a"), [⟨"make", []⟩]⟩
    let added : FilterCall := ⟨"plus", [.literal (.integer 1)]⟩
    let text : Pipeline := ⟨some (.literal (.string "ab")), []⟩
    let rest : Pipeline := ⟨some (.literal .nil), [⟨"size", []⟩]⟩
    c.DropFree
      ∧ Pipeline.evaluate ⟨made.base, made.filters ++ [added]⟩ c = .ok (.integer 1)
      ∧ Pipeline.evaluateBehind "t" made ⟨some (.path "t" [] "t"), [added]⟩ c = .ok (.integer 6)
      ∧ Block.parseAssign "nil = 'ab'" = .ok (.assign "nil" text)
      ∧ Pipeline.parse "nil | size" = .ok rest
      ∧ Pipeline.evaluate ⟨text.base, text.filters ++ rest.filters⟩ c = .ok (.integer 2)
      ∧ Pipeline.evaluateBehind "nil" text rest c = .ok (.integer 0) := by
  intro make c made added text rest
  have hfree : c.DropFree := by
    simp only [Context.DropFree, c, List.forall_mem_cons, Value.DropFree.integer, List.not_mem_nil,
      false_imp_iff, implies_true, and_self]
  have hassign : Block.parseAssign "nil = 'ab'" = .ok (.assign "nil" text) := by
    have hparts : Markup.assignment? "nil = 'ab'".toList = some ("nil".toList, "'ab'".toList) := rfl
    have hpieces : Text.splitUnquoted '|' "'ab'".toList = ["'ab'".toList] := by decide +kernel
    have htrim : Text.trim "'ab'".toList = "'ab'".toList := by decide +kernel
    have hvalue : Expression.parse "'ab'".toList = .ok (.literal (.string "ab")) :=
      Expression.parse_of_constant? rfl
    rw [Block.parseAssign, hparts]
    simp only [Pipeline.parse, String.toList_ofList, hpieces, List.headD_cons, htrim, hvalue]
    rfl
  have hrest : Pipeline.parse "nil | size" = .ok rest := by
    have hpieces : Text.splitUnquoted '|' "nil | size".toList =
        ["nil ".toList, " size".toList] := by decide +kernel
    have htrim : Text.trim "nil ".toList = "nil".toList := by decide +kernel
    have hvalue : Expression.parse "nil".toList = .ok (.literal .nil) :=
      Expression.parse_of_constant? rfl
    simp only [Pipeline.parse, hpieces, List.headD_cons, htrim, hvalue]
    rfl
  exact ⟨hfree, by rfl, by rfl, hassign, hrest, by rfl, by rfl⟩

end Liquid
