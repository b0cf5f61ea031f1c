import Liquid.Condition
import Liquid.Proofs.Value.Compare

/-!
# Comparisons do not contradict each other

What the six operators of equality and order say of two operands comes down to whether the two are
equal and which order they have, if any. This holds for values, and just as well where one side or
both are the word `empty` or the word `blank`.

- `Operator.decide`: what the operators say, by equality and order.
- `Operator.compare_eq_decide`: two values are compared so.
- `Decided`, `Operand.exists_decided`: and so are two operands, whichever stands first.
- `Coherent`, `comparisons_coherent`: the laws of the comparisons.
-/

namespace Liquid

/-! ### Equality and order decide -/

/-- What an operator says of two sides that are equal or not and have this order. -/
def Operator.decide (equal : Bool) (order : Option Ordering) : Operator → Bool
  | .equal => equal
  | .notEqual => !equal
  | .less => order == some .lt
  | .greater => order == some .gt
  | .lessOrEqual => order == some .lt || order == some .eq
  | .greaterOrEqual => order == some .gt || order == some .eq
  | .contains => false

/-- Where one value is nil, the two have no order and are equal if both are. -/
theorem Value.looseEq_of_isNil {a b : Value} (h : (a.isNil || b.isNil) = true) :
    a.looseEq b = (a.isNil && b.isNil) ∧ a.order? b = none := by
  cases a with
  | nil => cases b <;> exact ⟨rfl, rfl⟩
  | _ =>
    cases b with
    | nil => exact ⟨rfl, rfl⟩
    | _ => cases h

/-- Two values are compared by their equality and their order. -/
theorem Operator.compare_eq_decide {op : Operator} (hop : op ≠ .contains) (left right : Value) :
    op.compare left right =
      op.decide (left.comparable.looseEq right.comparable)
        (left.comparable.order? right.comparable) := by
  by_cases hnil : (left.comparable.isNil || right.comparable.isNil) = true
  · obtain ⟨hequal, horder⟩ := Value.looseEq_of_isNil hnil
    rw [hequal, horder]
    cases op <;> first | exact absurd rfl hop | exact if_pos hnil
  · cases op <;> first | exact absurd rfl hop | exact if_neg hnil

/-- Two sides are compared by an equality and an order that agree, and the two exchanged by the same
equality and the order turned round. -/
structure Decided (equal : Bool) (order : Option Ordering) (holds flipped : Operator → Bool) :
    Prop where
  /-- Sides that have an order are equal if neither has to stand in front of the other. -/
  agree (o : Ordering) : order = some o → equal = (o == .eq)
  /-- What an operator says of the sides. -/
  holds_eq (op : Operator) : op ≠ .contains → holds op = op.decide equal order
  /-- What it says of the sides exchanged. -/
  flipped_eq (op : Operator) : op ≠ .contains →
    flipped op = op.decide equal (order.map Ordering.swap)

namespace Decided

variable {equal : Bool} {order : Option Ordering} {holds flipped : Operator → Bool}

theorem flip (h : Decided equal order holds flipped) :
    Decided equal (order.map Ordering.swap) flipped holds where
  agree o ho := by
    obtain ⟨p, hp, rfl⟩ := Option.map_eq_some_iff.1 ho
    rw [h.agree p hp]
    cases p <;> rfl
  holds_eq := h.flipped_eq
  flipped_eq op hop := by
    rw [h.holds_eq op hop, Option.map_map]
    congr 1
    cases order with
    | none => rfl
    | some o => exact congrArg some o.swap_swap.symm

end Decided

/-- Values are compared by their equality and their order. -/
theorem Value.decided (left right : Value) :
    Decided (left.comparable.looseEq right.comparable) (left.comparable.order? right.comparable)
      (fun op => op.compare left right) (fun op => op.compare right left) where
  agree _ ho := Value.looseEq_of_order? ho
  holds_eq _ hop := Operator.compare_eq_decide hop left right
  flipped_eq op hop := by
    rw [Operator.compare_eq_decide hop right left, Value.looseEq_comm, Value.order?_swap]

/-- A test says nothing about order. -/
theorem decided_checkWord (holds : Bool) :
    Decided holds none (fun op => checkWord op holds) (fun op => checkWord op holds) where
  agree _ ho := nomatch ho
  holds_eq op _ := by cases op <;> rfl
  flipped_eq op _ := by cases op <;> rfl

theorem exists_decided_compareWithEmpty (v : Value) : ∃ equal order,
    Decided equal order (fun op => compareWithEmpty v op true)
      (fun op => compareWithEmpty v op false) := by
  unfold compareWithEmpty
  cases v.asList? with
  | none => exact ⟨_, _, decided_checkWord _⟩
  | some items => exact ⟨_, _, Value.decided (.integer 0) (.ofNat items.length)⟩

/-! ### Operands -/

/-- What an operator says of two operands. -/
def Operand.compare (c : Context) (left right : Operand) (op : Operator) : Bool :=
  Comparison.evaluate ⟨left, some (op, right)⟩ c

/-- Operands are compared by an equality and an order, whichever stands first. -/
theorem Operand.exists_decided (c : Context) (left right : Operand) : ∃ equal order,
    Decided equal order (left.compare c right) (right.compare c left) := by
  cases left with
  | expression e =>
    cases right with
    | expression f => exact ⟨_, _, Value.decided (e.evaluate c) (f.evaluate c)⟩
    | empty =>
      obtain ⟨_, _, h⟩ := exists_decided_compareWithEmpty (e.evaluate c)
      exact ⟨_, _, h.flip⟩
    | blank => exact ⟨_, _, decided_checkWord (e.evaluate c).isBlank⟩
  | empty =>
    cases right with
    | expression f => exact exists_decided_compareWithEmpty (f.evaluate c)
    | empty => exact ⟨_, _, decided_checkWord false⟩
    | blank => exact exists_decided_compareWithEmpty .nil
  | blank =>
    cases right with
    | expression f => exact ⟨_, _, decided_checkWord (f.evaluate c).isBlank⟩
    | empty => exact ⟨_, _, decided_checkWord false⟩
    | blank => exact ⟨_, _, decided_checkWord true⟩

/-! ### The laws -/

/-- The comparisons of two sides, and of the two exchanged, do not contradict each other. -/
structure Coherent (holds flipped : Operator → Bool) : Prop where
  /-- `!=` is the negation of `==`. -/
  notEqual : holds .notEqual = !holds .equal
  /-- `==` is symmetric. -/
  equal_flip : holds .equal = flipped .equal
  /-- `<` is `>` of the sides exchanged. -/
  less_flip : holds .less = flipped .greater
  /-- `<=` is `>=` of the sides exchanged. -/
  lessOrEqual_flip : holds .lessOrEqual = flipped .greaterOrEqual
  /-- At most one of `<`, `==` and `>` holds. -/
  exclusive : [Operator.less, .equal, .greater].Pairwise fun op op' =>
    ¬(holds op = true ∧ holds op' = true)
  /-- `<` implies `<=`. -/
  lessOrEqual_of_less : holds .less = true → holds .lessOrEqual = true
  /-- `<=` implies `<` or `==`. -/
  less_or_equal : holds .lessOrEqual = true → holds .less = true ∨ holds .equal = true

/-- An equality and an order that agree do not contradict each other. -/
theorem Operator.coherent_decide {equal : Bool} {order : Option Ordering}
    (agree : ∀ o, order = some o → equal = (o == .eq)) :
    Coherent (fun op => op.decide equal order)
      (fun op => op.decide equal (order.map Ordering.swap)) := by
  cases order with
  | none => cases equal <;> constructor <;> decide
  | some o =>
    rw [agree o rfl]
    cases o <;> constructor <;> decide

theorem Decided.coherent {equal : Bool} {order : Option Ordering} {holds flipped : Operator → Bool}
    (h : Decided equal order holds flipped) : Coherent holds flipped := by
  have law := Operator.coherent_decide h.agree
  have hholds := h.holds_eq
  have hflipped := h.flipped_eq
  constructor
  · rw [hholds .notEqual (by decide), hholds .equal (by decide)]
    exact law.notEqual
  · rw [hholds .equal (by decide), hflipped .equal (by decide)]
    exact law.equal_flip
  · rw [hholds .less (by decide), hflipped .greater (by decide)]
    exact law.less_flip
  · rw [hholds .lessOrEqual (by decide), hflipped .greaterOrEqual (by decide)]
    exact law.lessOrEqual_flip
  · refine law.exclusive.imp_of_mem fun {op op'} hop hop' hnot => ?_
    have hne : op ≠ .contains ∧ op' ≠ .contains := by
      constructor
      · rintro rfl
        simp at hop
      · rintro rfl
        simp at hop'
    rwa [hholds op hne.1, hholds op' hne.2]
  · rw [hholds .less (by decide), hholds .lessOrEqual (by decide)]
    exact law.lessOrEqual_of_less
  · rw [hholds .less (by decide), hholds .lessOrEqual (by decide), hholds .equal (by decide)]
    exact law.less_or_equal

/-- Of two values that are nil only `==` holds, and of two of which one is nil only `!=`. -/
theorem Operator.compare_of_isNil {op : Operator} (hop : op ≠ .contains) (left right : Value)
    (h : (left.comparable.isNil || right.comparable.isNil) = true) :
    op.compare left right = true ↔
      op = if left.comparable.isNil && right.comparable.isNil then .equal else .notEqual := by
  obtain ⟨hequal, horder⟩ := Value.looseEq_of_isNil h
  rw [Operator.compare_eq_decide hop, hequal, horder]
  cases left.comparable.isNil && right.comparable.isNil <;> cases op <;>
    first | exact absurd rfl hop | decide

/-- The comparisons of two operands do not contradict each other. Where both have nil as their value
only `==` holds, and where one has, only `!=`; a drop that stands for nil is nil. -/
theorem comparisons_coherent (c : Context) :
    (∀ left right : Operand, Coherent (left.compare c right) (right.compare c left)) ∧
      ∀ (e f : Expression) (op : Operator), op ≠ .contains →
        ((e.evaluate c).comparable.isNil = true → (f.evaluate c).comparable.isNil = true →
          (Operand.compare c (.expression e) (.expression f) op = true ↔ op = .equal)) ∧
        ((e.evaluate c).comparable.isNil ≠ (f.evaluate c).comparable.isNil →
          (Operand.compare c (.expression e) (.expression f) op = true ↔ op = .notEqual)) := by
  constructor
  · intro left right
    obtain ⟨_, _, h⟩ := Operand.exists_decided c left right
    exact h.coherent
  · intro e f op hop
    have hnil := Operator.compare_of_isNil hop (e.evaluate c) (f.evaluate c)
    constructor
    · intro he hf
      rw [he, hf] at hnil
      exact hnil rfl
    · intro hne
      cases he : (e.evaluate c).comparable.isNil with
      | true =>
        have hf : (f.evaluate c).comparable.isNil = false := by simpa [he] using hne
        rw [he, hf] at hnil
        exact hnil rfl
      | false =>
        have hf : (f.evaluate c).comparable.isNil = true := by simpa [he] using hne
        rw [he, hf] at hnil
        exact hnil rfl

/-- A name without a value is not less than one. -/
theorem comparisons_coherent_missing :
    Operand.compare (.withFilters []) (.expression (.path "missing" [] ""))
      (.expression (.literal (.integer 1))) .less ≠ true := by
  have hnil := ((comparisons_coherent (.withFilters [])).2 (.path "missing" [] "")
    (.literal (.integer 1)) .less (by decide)).2 (by decide)
  rw [ne_eq, hnil]
  decide

end Liquid
