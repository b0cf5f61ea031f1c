import Liquid.Proofs.Expression.Roots

/-!
# Paths in two steps

A path may be followed up to one of its segments, and from there on to its end. Only the end of a
path can ask for the `size` of a container, which gives an integer, and from an integer no segment
leads on.

- `Value.member_atEnd`: what the end of a path gives more is an integer.
- `Expression.followBy_append_of_eq`: a path in two steps; `Expression.followBy_append`: from a
  value without drops.
- `Expression.evaluate_append_index`: an index behind a path to a list.
-/

namespace Liquid

namespace Value

/-- At the end of a path a member is the same as elsewhere, or else an integer where there is
nothing elsewhere. -/
theorem member_atEnd (read : Drop → String → Value) (container key : Value) :
    container.member read true key = container.member read false key ∨
      container.member read false key = nil ∧
        ∃ i, container.member read true key = integer i := by
  cases container with
  | dict entries =>
    dsimp only [member]
    cases hget : Keyed.get? key.toText entries with
    | some v => exact .inl rfl
    | none =>
      by_cases hsize : key.toText = "size"
      · refine .inr ⟨rfl, _, if_pos ?_⟩
        rw [hsize]
        rfl
      · refine .inl (if_neg ?_)
        rw [Bool.true_and, beq_iff_eq]
        exact hsize
  | list items =>
    cases key with
    | string name =>
      by_cases hsize : name = "size"
      · subst hsize
        exact .inr ⟨rfl, _, rfl⟩
      · refine .inl ?_
        dsimp only [member]
        rw [if_neg (mt And.left hsize), if_neg (mt And.left hsize)]
    | nil | bool | integer | float | list | dict | drop => exact .inl rfl
  | nil | bool | integer | float | string | drop => exact .inl rfl

end Value

namespace Expression

variable {c : Context} {read : Drop → String → Value} {root : String → Value}

/-- A step of a path: a drop gives way to what it stands for, and from nil no segment leads on. -/
theorem followBy_cons (v : Value) (segment : Segment) (rest : List Segment) :
    followBy read root (segment :: rest) v =
      followBy read root rest (v.normalize.member read rest.isEmpty (keyBy read root segment)) := by
  rw [followBy]
  cases v.normalize.member read rest.isEmpty (keyBy read root segment) with
  | nil => exact (followBy_nil read root rest).symm
  | bool | integer | float | string | list | dict | drop => rfl

/-- Taking a step for the end of a path makes no difference to what comes behind it. -/
theorem followBy_member (v key : Value) (rest : List Segment) :
    followBy read root rest (v.member read rest.isEmpty key) =
      followBy read root rest (v.member read true key) := by
  cases rest with
  | nil => rfl
  | cons segment rest =>
    show followBy read root (segment :: rest) (v.member read false key) = _
    rcases v.member_atEnd read key with heq | ⟨hnil, i, hinteger⟩
    · rw [heq]
    · rw [hnil, hinteger]
      rfl

/-- Where a drop has given way to a value that is none, a path may begin with that value. -/
theorem followBy_normalize (rest : List Segment) {v w : Value} (h : v.normalize = w)
    (hw : w.normalize = w) : followBy read root rest v = followBy read root rest w := by
  cases rest with
  | nil => rw [followBy, followBy, h, hw]
  | cons segment rest => rw [followBy_cons, followBy_cons, h, hw]

/-- A path is followed in two steps, if it does not stop at a drop in between. -/
theorem followBy_append_of_eq (rest : List Segment) {segments : List Segment} {v w : Value}
    (h : followBy read root segments v = w) (hw : w.normalize = w) :
    followBy read root (segments ++ rest) v = followBy read root rest w := by
  induction segments generalizing v with
  | nil => exact followBy_normalize rest h hw
  | cons segment segments ih =>
    rw [followBy_cons] at h
    rw [List.cons_append, followBy_cons]
    cases segments with
    | cons next segments => exact ih h
    | nil =>
      rw [List.nil_append, followBy_member]
      exact followBy_normalize rest h hw

theorem dropFree_followBy (segments : List Segment) {v : Value} (hv : v.DropFree) :
    (followBy read root segments v).DropFree := by
  induction segments generalizing v with
  | nil =>
    rw [followBy, hv.normalize_eq]
    exact hv
  | cons segment segments ih =>
    rw [followBy_cons, hv.normalize_eq]
    exact ih (hv.member read _ _)

/-- From a value without drops, a path may be cut anywhere. -/
theorem followBy_append (segments rest : List Segment) {v : Value} (hv : v.DropFree) :
    followBy read root (segments ++ rest) v =
      followBy read root rest (followBy read root segments v) :=
  followBy_append_of_eq rest rfl (dropFree_followBy segments hv).normalize_eq

/-- An index behind a path that leads to a list, through whatever drops. -/
theorem evaluate_append_index {root raw raw' : String} {segments : List Segment}
    {items : List Value} (index : Expression)
    (h : (path root segments raw).evaluate c = .list items) :
    (path root (segments ++ [.index index]) raw').evaluate c =
      ((Value.list items).member c.read true (index.evaluate c)).normalize := by
  rw [evaluate, evaluateBy] at h
  rw [evaluate, evaluateBy, followBy_append_of_eq _ h rfl, followBy_cons, followBy]
  rfl

end Expression

end Liquid
