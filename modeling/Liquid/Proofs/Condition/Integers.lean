import Liquid.Proofs.Condition.Coherence
import Liquid.Proofs.Filter.Sort
import Liquid.Template.Render

/-!
# Comparing integers

Conditions and the `sort` filter compare integers by their doubles. Up to `2 ^ 53` on either side of
zero this is exact. Beyond it, integers that are rounded to the same double are taken for equal; no
two are ever compared the wrong way round.

- `Operator.relates`: what an operator says of two integers in mathematics.
- `Operator.compare_integer`, `Filter.sort_integers`: what it says of two values that are integers,
  and the order that a list of them is put in.
- `KeptApart`, `Operator.compare_integer_eq_iff`: integers that are compared exactly.
- `integers_compare_rounded`: what all that compares integers says of them.
- `integers_collide`: two integers that are taken for equal.
-/

namespace Liquid

open Decimal

/-- What an operator says of two integers in mathematics. -/
def Operator.relates (op : Operator) (a b : Int) : Bool :=
  match op with
  | .equal => a = b
  | .notEqual => a ≠ b
  | .less => a < b
  | .greater => a > b
  | .lessOrEqual => a ≤ b
  | .greaterOrEqual => a ≥ b
  | .contains => false

theorem Operator.relates_eq_decide (op : Operator) (a b : Int) :
    op.relates a b = op.decide (Ord.compare a b == .eq) (some (Ord.compare a b)) := by
  rcases Int.lt_trichotomy a b with h | h | h
  · rw [Int.compare_eq_lt.2 h]
    cases op <;> simp [Operator.relates, Operator.decide] <;> omega
  · rw [Int.compare_eq_eq.2 h]
    cases op <;> simp [Operator.relates, Operator.decide] <;> omega
  · rw [Int.compare_eq_gt.2 h]
    cases op <;> simp [Operator.relates, Operator.decide] <;> omega

/-- The order of two integers is that of the integers rounded. -/
theorem Value.order?_integer (i j : Int64) :
    (Value.integer i).order? (.integer j) =
      some (compare (nearestInt i.toInt) (nearestInt j.toInt)) :=
  (Value.order?_of_isNumber rfl).trans (floatOrder?_ofInt64 i j)

/-- Two integers are equal in conditions if they are when rounded. -/
theorem Value.looseEq_integer (i j : Int64) :
    (Value.integer i).looseEq (.integer j) = decide (nearestInt i.toInt = nearestInt j.toInt) := by
  rw [Value.looseEq_of_order? (Value.order?_integer i j), Bool.eq_iff_iff, beq_iff_eq,
    decide_eq_true_iff]
  exact Int.compare_eq_eq

/-- Two integers are compared as the integers rounded. -/
theorem Operator.compare_integer {op : Operator} (hop : op ≠ .contains) (i j : Int64) :
    op.compare (.integer i) (.integer j) =
      op.relates (nearestInt i.toInt) (nearestInt j.toInt) := by
  have horder := Value.order?_integer i j
  rw [Operator.compare_eq_decide hop, Operator.relates_eq_decide]
  show op.decide ((Value.integer i).looseEq (.integer j))
    ((Value.integer i).order? (.integer j)) = _
  rw [Value.looseEq_of_order? horder, horder]

/-- A list of integers is sorted as the integers rounded. -/
theorem Filter.sort_integers (is : List Int64) :
    ∃ sorted : List Int64,
      Filter.sort (.list (is.map .integer)) [] = .ok (.list (sorted.map .integer)) ∧
        sorted.Perm is ∧
        sorted.Pairwise fun i j => nearestInt i.toInt ≤ nearestInt j.toInt := by
  have hkinds : ∀ key ∈ Filter.sortKeys (.list (is.map .integer)) [], key.SortsAs .number := by
    intro key hkey
    obtain ⟨v, hv, rfl⟩ := List.mem_map.1 hkey
    obtain ⟨i, -, rfl⟩ := List.mem_map.1 hv
    exact rfl
  obtain ⟨sorted, hsort, hperm, hpairwise⟩ :=
    Filter.exists_sort_eq (Filter.transitive_of_sortsAs hkinds)
  -- what is sorted are the integers in another order
  obtain ⟨js, rfl, hjs⟩ : ∃ js : List Int64, sorted = js.map .integer ∧ js.Perm is :=
    (congrFun₂ (List.eq_map_comp_perm Value.integer) sorted is).mpr hperm
  rw [List.pairwise_map] at hpairwise
  refine ⟨js, hsort, hjs, hpairwise.imp fun {i j} hle => ?_⟩
  have horder : Value.sortOrder (.integer i) (.integer j) =
      Ord.compare (nearestInt i.toInt) (nearestInt j.toInt) :=
    congrArg (·.getD .eq) (Value.order?_integer i j)
  have hgt : Ord.compare (nearestInt i.toInt) (nearestInt j.toInt) ≠ .gt := by
    rw [← horder]
    exact hle
  exact Int.compare_ne_gt.1 hgt

/-! ### Integers that rounding keeps apart -/

/-- No two of the integers are rounded to the same one. -/
def KeptApart (is : List Int64) : Prop :=
  ∀ i ∈ is, ∀ j ∈ is, nearestInt i.toInt = nearestInt j.toInt → i = j

namespace KeptApart

/-- Up to `2 ^ 53` integers are not rounded. -/
theorem of_natAbs_le {is : List Int64} (h : ∀ i ∈ is, i.toInt.natAbs ≤ 2 ^ 53) : KeptApart is := by
  intro i hi j hj heq
  rw [nearestInt_of_natAbs_le (h i hi), nearestInt_of_natAbs_le (h j hj)] at heq
  exact Int64.toInt_inj.1 heq

/-- The order of integers that are kept apart is that of the integers rounded. -/
theorem compare_eq {is : List Int64} (h : KeptApart is) {i j : Int64} (hi : i ∈ is) (hj : j ∈ is) :
    Ord.compare (nearestInt i.toInt) (nearestInt j.toInt) = Ord.compare i.toInt j.toInt := by
  have hle : i.toInt ≤ j.toInt → nearestInt i.toInt ≤ nearestInt j.toInt := nearestInt_mono
  have hge : j.toInt ≤ i.toInt → nearestInt j.toInt ≤ nearestInt i.toInt := nearestInt_mono
  have heq : nearestInt i.toInt = nearestInt j.toInt → i.toInt = j.toInt := fun heq =>
    congrArg Int64.toInt (h i hi j hj heq)
  exact compare_congr (by omega) (by omega)

/-- Integers that are in order when rounded are in order. -/
theorem le_of_nearestInt_le {is : List Int64} (h : KeptApart is) {i j : Int64} (hi : i ∈ is)
    (hj : j ∈ is) (hle : nearestInt i.toInt ≤ nearestInt j.toInt) : i.toInt ≤ j.toInt := by
  rw [← Int.compare_ne_gt, ← h.compare_eq hi hj, Int.compare_ne_gt]
  exact hle

/-- An integer is found when rounded if and only if it is there. -/
theorem any_nearestInt_iff {i : Int64} {js : List Int64} (h : KeptApart (i :: js)) :
    (js.any fun j => nearestInt i.toInt = nearestInt j.toInt) = true ↔ i ∈ js := by
  rw [List.any_eq_true]
  constructor
  · rintro ⟨j, hj, heq⟩
    have hij : i = j := h i List.mem_cons_self j (List.mem_cons_of_mem i hj) (of_decide_eq_true heq)
    exact hij ▸ hj
  · exact fun hi => ⟨i, hi, decide_eq_true rfl⟩

end KeptApart

/-- Two integers are compared exactly if and only if they are kept apart. -/
theorem Operator.compare_integer_eq_iff (i j : Int64) :
    (∀ op : Operator, op ≠ .contains →
      op.compare (.integer i) (.integer j) = op.relates i.toInt j.toInt) ↔ KeptApart [i, j] := by
  constructor
  · intro hexact
    have hequal := hexact .equal (by decide)
    rw [Operator.compare_integer (by decide)] at hequal
    have hinj : nearestInt i.toInt = nearestInt j.toInt → i = j := fun heq =>
      Int64.toInt_inj.1 ((decide_eq_decide.1 hequal).1 heq)
    intro k hk l hl heq
    simp only [List.mem_cons, List.not_mem_nil, or_false] at hk hl
    rcases hk with rfl | rfl <;> rcases hl with rfl | rfl
    · rfl
    · exact hinj heq
    · exact (hinj heq.symm).symm
    · rfl
  · intro h op hop
    rw [Operator.compare_integer hop, Operator.relates_eq_decide, Operator.relates_eq_decide,
      h.compare_eq (by simp) (by simp)]

/-! ### All that compares integers -/

/-- Integers are compared as they are when rounded to doubles: by the six operators, by `case`, in
lists by `contains`, and by `sort`. Equality as data is always exact. The operators are exact on two
integers if and only if rounding keeps the two apart, and the others are where it keeps all the
integers apart that they are about, as it does up to `2 ^ 53` on either side of zero. No order is
ever turned round. -/
theorem integers_compare_rounded (c : Context) (i : Int64) (js : List Int64) :
    (∀ (op : Operator) (j : Int64), op ≠ .contains →
      op.compare (.integer i) (.integer j) = op.relates (nearestInt i.toInt) (nearestInt j.toInt)) ∧
    (∀ j : Int64, (Value.integer i).looseEq (.integer j) =
      decide (nearestInt i.toInt = nearestInt j.toInt)) ∧
    (∀ j : Int64, (Value.integer i).same (.integer j) = decide (i = j)) ∧
    (matchesSubject (.integer i) (js.map fun j => .literal (.integer j)) c =
      js.any fun j => nearestInt i.toInt = nearestInt j.toInt) ∧
    ((Value.list (js.map .integer)).holds (.integer i) =
      js.any fun j => nearestInt i.toInt = nearestInt j.toInt) ∧
    (∃ sorted : List Int64,
      Filter.sort (.list (js.map .integer)) [] = .ok (.list (sorted.map .integer)) ∧
        sorted.Perm js ∧
        sorted.Pairwise (fun j k => nearestInt j.toInt ≤ nearestInt k.toInt) ∧
        (KeptApart js → sorted.Pairwise fun j k => j.toInt ≤ k.toInt)) ∧
    (∀ j : Int64, (∀ op : Operator, op ≠ .contains →
      op.compare (.integer i) (.integer j) = op.relates i.toInt j.toInt) ↔ KeptApart [i, j]) ∧
    (KeptApart (i :: js) →
      (matchesSubject (.integer i) (js.map fun j => .literal (.integer j)) c = true ↔ i ∈ js) ∧
        ((Value.list (js.map .integer)).holds (.integer i) = true ↔ i ∈ js)) ∧
    ((∀ j ∈ i :: js, j.toInt.natAbs ≤ 2 ^ 53) → KeptApart (i :: js)) ∧
    (∀ j k : Int, j ≤ k → nearestInt j ≤ nearestInt k) := by
  have hmatches : matchesSubject (.integer i) (js.map fun j => .literal (.integer j)) c =
      js.any fun j => nearestInt i.toInt = nearestInt j.toInt := by
    rw [matchesSubject, List.any_map]
    refine congrArg (List.any js) (funext fun j => ?_)
    show Operator.equal.compare (.integer i) ((Expression.literal (.integer j)).evaluate c) = _
    rw [Expression.evaluate, Expression.evaluateBy, Operator.compare_integer (by decide)]
    rfl
  have hholds : (Value.list (js.map .integer)).holds (.integer i) =
      js.any fun j => nearestInt i.toInt = nearestInt j.toInt := by
    show (js.map Value.integer).any (fun item => item.looseEq (.integer i)) = _
    rw [List.any_map]
    refine congrArg (List.any js) (funext fun j => ?_)
    exact (Value.looseEq_comm (.integer j) (.integer i)).trans (Value.looseEq_integer i j)
  refine ⟨fun op j hop => op.compare_integer hop i j, Value.looseEq_integer i, fun j => rfl,
    hmatches, hholds, ?_, Operator.compare_integer_eq_iff i, fun h => ⟨?_, ?_⟩,
    KeptApart.of_natAbs_le, fun j k => nearestInt_mono⟩
  · obtain ⟨sorted, hsort, hperm, hpairwise⟩ := Filter.sort_integers js
    refine ⟨sorted, hsort, hperm, hpairwise, fun h => hpairwise.imp_of_mem fun hj hk hle => ?_⟩
    exact h.le_of_nearestInt_le (hperm.mem_iff.1 hj) (hperm.mem_iff.1 hk) hle
  · rw [hmatches]
    exact h.any_nearestInt_iff
  · rw [hholds]
    exact h.any_nearestInt_iff

/-- Two integers that are taken for equal, and that `sort` leaves as they stand. -/
theorem integers_collide :
    Operator.equal.compare (.integer 9007199254740993) (.integer 9007199254740992) = true ∧
      Operator.greater.compare (.integer 9007199254740993) (.integer 9007199254740992) = false ∧
      Filter.sort (.list [.integer 9007199254740993, .integer 9007199254740992]) [] =
        .ok (.list [.integer 9007199254740993, .integer 9007199254740992]) ∧
      (9007199254740993 : Int64) > 9007199254740992 :=
  ⟨by decide, by decide, by rfl, by decide⟩

end Liquid
