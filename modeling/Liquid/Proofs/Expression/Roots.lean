import Liquid.Proofs.Value.DropFree

/-!
# The names that an expression reads

An expression reads the context only under the names that its paths begin with, as long as it meets
no drop on the way.

- `Expression.roots`: the names that the paths of an expression begin with.
- `Expression.DropFree`, `Context.DropFree`: no drop is written in an expression, or stands in a
  scope.
- `Expression.evaluate_eq`: contexts in which the roots have the same values give an expression the
  same value.
-/

namespace Liquid

namespace Expression

mutual

/-- The names that the paths of an expression begin with. -/
def roots : Expression → List String
  | literal _ => []
  | path root segments _ => root :: rootsOfSegments segments
  | range first last => roots first ++ roots last
  | array items => rootsAll items

/-- The names that the paths of several expressions begin with. -/
def rootsAll : List Expression → List String
  | [] => []
  | e :: rest => roots e ++ rootsAll rest

/-- The names that the paths in a segment begin with. -/
def rootsOfSegment : Segment → List String
  | .key _ => []
  | .index e => roots e

/-- The names that the paths in several segments begin with. -/
def rootsOfSegments : List Segment → List String
  | [] => []
  | segment :: rest => rootsOfSegment segment ++ rootsOfSegments rest

end

/-- The names of each expression are among those of all. -/
theorem mem_rootsAll {es : List Expression} {e : Expression} (he : e ∈ es) {name : String}
    (hname : name ∈ e.roots) : name ∈ rootsAll es := by
  induction es with
  | nil => cases he
  | cons first rest ih =>
    rw [rootsAll, List.mem_append]
    rcases List.mem_cons.1 he with rfl | he
    · exact .inl hname
    · exact .inr (ih he)

mutual

/-- No value that is written out in an expression has a drop in it. -/
def DropFree : Expression → Prop
  | literal v => v.DropFree
  | path _ segments _ => SegmentsDropFree segments
  | range first last => DropFree first ∧ DropFree last
  | array items => AllDropFree items

/-- No value that is written out in one of the expressions has a drop in it. -/
def AllDropFree : List Expression → Prop
  | [] => True
  | e :: rest => DropFree e ∧ AllDropFree rest

/-- No value that is written out in a segment has a drop in it. -/
def SegmentDropFree : Segment → Prop
  | .key _ => True
  | .index e => DropFree e

/-- No value that is written out in one of the segments has a drop in it. -/
def SegmentsDropFree : List Segment → Prop
  | [] => True
  | segment :: rest => SegmentDropFree segment ∧ SegmentsDropFree rest

end

end Expression

namespace Context

/-- No value in a scope has a drop in it. -/
def DropFree (c : Context) : Prop := ∀ scope ∈ c.scopes, ∀ entry ∈ scope, entry.2.DropFree

theorem DropFree.root {c : Context} (h : c.DropFree) (name : String) : (c.root name).DropFree := by
  refine .getD fun v hv => ?_
  obtain ⟨scope, hscope, hget⟩ := List.exists_of_findSome?_eq_some hv
  exact h scope hscope _ (Keyed.mem_of_get? hget)

end Context

namespace Expression

variable {read read' : Drop → String → Value} {root root' : String → Value}

/-- From nil no segment leads anywhere. -/
theorem followBy_nil (read : Drop → String → Value) (root : String → Value)
    (segments : List Segment) : followBy read root segments .nil = .nil := by
  cases segments with
  | nil => rfl
  | cons segment rest => rfl

/-- A path of a name alone gives what the name is bound to, or what that stands for. -/
theorem evaluate_name (c : Context) (name raw : String) :
    (path name [] raw).evaluate c = (c.root name).normalize :=
  rfl

theorem dropFree_integersBetween (first last : Int64) :
    (Value.list (integersBetween first last)).DropFree := by
  refine .list fun v hv => ?_
  obtain ⟨n, -, rfl⟩ := List.mem_map.1 hv
  exact .integer _

mutual

theorem evaluateBy_eq (hroot : ∀ name, (root name).DropFree) : (e : Expression) → e.DropFree →
    (∀ name ∈ e.roots, root name = root' name) →
    evaluateBy read root e = evaluateBy read' root' e ∧ (evaluateBy read root e).DropFree
  | literal v, he, _ => ⟨rfl, he⟩
  | path first segments raw, he, hroots => by
    rw [evaluateBy, evaluateBy, ← hroots first List.mem_cons_self]
    exact followBy_eq hroot segments he (fun name h => hroots name (List.mem_cons_of_mem first h))
      _ (hroot first)
  | range first last, he, hroots => by
    have hfirst := evaluateBy_eq hroot first he.1
      fun name h => hroots name (List.mem_append_left _ h)
    have hlast := evaluateBy_eq hroot last he.2
      fun name h => hroots name (List.mem_append_right _ h)
    rw [evaluateBy, evaluateBy, ← hfirst.1, ← hlast.1]
    refine ⟨rfl, ?_⟩
    extract_lets
    split
    · exact .nil
    · exact dropFree_integersBetween _ _
  | array items, he, hroots => by
    have hitems := evaluateAllBy_eq hroot items he hroots
    rw [evaluateBy, evaluateBy, ← hitems.1]
    exact ⟨rfl, .list hitems.2⟩

theorem evaluateAllBy_eq (hroot : ∀ name, (root name).DropFree) :
    (es : List Expression) → AllDropFree es →
    (∀ name ∈ rootsAll es, root name = root' name) →
    evaluateAllBy read root es = evaluateAllBy read' root' es
      ∧ ∀ v ∈ evaluateAllBy read root es, v.DropFree
  | [], _, _ => ⟨rfl, fun _ h => by cases h⟩
  | e :: rest, hes, hroots => by
    have hfirst := evaluateBy_eq hroot e hes.1
      fun name h => hroots name (List.mem_append_left _ h)
    have hrest := evaluateAllBy_eq hroot rest hes.2
      fun name h => hroots name (List.mem_append_right _ h)
    rw [evaluateAllBy, evaluateAllBy, ← hfirst.1, ← hrest.1]
    refine ⟨rfl, fun v hv => ?_⟩
    rcases List.mem_cons.1 hv with rfl | hv
    · exact hfirst.2
    · exact hrest.2 v hv

theorem keyBy_eq (hroot : ∀ name, (root name).DropFree) :
    (segment : Segment) → SegmentDropFree segment →
    (∀ name ∈ rootsOfSegment segment, root name = root' name) →
    keyBy read root segment = keyBy read' root' segment
  | .key _, _, _ => rfl
  | .index e, he, hroots => (evaluateBy_eq hroot e he hroots).1

theorem followBy_eq (hroot : ∀ name, (root name).DropFree) :
    (segments : List Segment) → SegmentsDropFree segments →
    (∀ name ∈ rootsOfSegments segments, root name = root' name) →
    (v : Value) → v.DropFree →
    followBy read root segments v = followBy read' root' segments v
      ∧ (followBy read root segments v).DropFree
  | [], _, _, v, hv => by
    rw [followBy, followBy, hv.normalize_eq]
    exact ⟨rfl, hv⟩
  | segment :: rest, hs, hroots, v, hv => by
    have hkey := keyBy_eq hroot segment hs.1
      fun name h => hroots name (List.mem_append_left _ h)
    have hrest := followBy_eq hroot rest hs.2
      fun name h => hroots name (List.mem_append_right _ h)
    rw [followBy, followBy, hv.normalize_eq, ← hkey,
      Value.member_read_irrel hv read' read]
    -- nil ends the path in both contexts; any other member is gone on from
    have hnext := hv.member read rest.isEmpty (keyBy read root segment)
    cases hmember : v.member read rest.isEmpty (keyBy read root segment) with
    | nil => exact ⟨rfl, .nil⟩
    | bool | integer | float | string | list | dict | drop =>
      rw [hmember] at hnext
      exact hrest _ hnext

end

variable {c d : Context}

/-- In contexts in which the roots of an expression have the same values, so has the expression. -/
theorem evaluate_eq (hc : c.DropFree) {e : Expression} (he : e.DropFree)
    (hroots : ∀ name ∈ e.roots, c.root name = d.root name) :
    e.evaluate c = e.evaluate d ∧ (e.evaluate c).DropFree :=
  evaluateBy_eq hc.root e he hroots

theorem range?_eq (hc : c.DropFree) {e : Expression} (he : e.DropFree)
    (hroots : ∀ name ∈ e.roots, c.root name = d.root name) : e.range? c = e.range? d := by
  cases e with
  | range first last =>
    have hfirst := evaluate_eq hc he.1 fun name h => hroots name (List.mem_append_left _ h)
    have hlast := evaluate_eq hc he.2 fun name h => hroots name (List.mem_append_right _ h)
    rw [range?, range?, hfirst.1, hlast.1]
  | literal v => rfl
  | path root segments raw => rfl
  | array items => rfl

end Expression

end Liquid
