import Liquid.Expression.Evaluate
import Liquid.Value.Compare
import Liquid.Text.Search

/-!
# Conditions

The tests of `if`, `unless`, `elsif` and, through equality, of `case`. (`SPEC_FULL.md`, section
5.4.)

- `Operator`, `Operator.compare`: the comparisons and what they say of two values.
- `Operand`: an expression, or one of the words `empty` and `blank`.
- `Comparison`: one operand, or two with an operator.
- `Condition`: comparisons joined by `and` and `or`, which associate to the right and bind equally
  strongly: `a and b or c` is `a and (b or c)`.
- `Condition.parse`, `Condition.evaluate`.
-/

namespace Liquid

open Text

/-- A comparison of two values. -/
inductive Operator where
  /-- `==` -/
  | equal
  /-- `!=` or `<>` -/
  | notEqual
  /-- `<` -/
  | less
  /-- `>` -/
  | greater
  /-- `<=` -/
  | lessOrEqual
  /-- `>=` -/
  | greaterOrEqual
  /-- `contains` -/
  | contains
  deriving DecidableEq, Repr

/-- The operator that is written so. -/
def Operator.ofText? : String → Option Operator
  | "==" => some .equal
  | "!=" => some .notEqual
  | "<>" => some .notEqual
  | "<" => some .less
  | ">" => some .greater
  | "<=" => some .lessOrEqual
  | ">=" => some .greaterOrEqual
  | "contains" => some .contains
  | _ => none

/-! ### Comparing values -/

mutual

/-- How a value takes part in comparisons: lists and dictionaries as `true`, a drop as the value it
stands for. -/
def Value.comparable : Value → Value
  | .list _ => .bool true
  | .dict _ => .bool true
  | .drop d => comparableDrop d
  | v => v

/-- How a drop takes part in comparisons. -/
def comparableDrop : Drop → Value
  | ⟨_, _, _, some v⟩ => v.comparable
  | ⟨identity, text, hasKey, none⟩ => .drop ⟨identity, text, hasKey, none⟩

end

/-- Whether a string has the text of a value in it, a list an equal item, or a dictionary the
text as a key. -/
def Value.holds (haystack needle : Value) : Bool :=
  match haystack with
  | .string s => !needle.isNil && occursIn needle.toChars s.toList
  | .list items => items.any fun item => item.looseEq needle
  | .dict entries => Keyed.contains needle.toText entries
  | _ => false

/-- What an operator says of two values. Where one of them is nil only `==` and `!=` can hold. -/
def Operator.compare (op : Operator) (left right : Value) : Bool :=
  match op with
  | .contains => left.holds right
  | op =>
    let a := left.comparable
    let b := right.comparable
    if a.isNil || b.isNil then
      match op with
      | .equal => a.isNil && b.isNil
      | .notEqual => !(a.isNil && b.isNil)
      | _ => false
    else
      match op with
      | .equal => a.looseEq b
      | .notEqual => !a.looseEq b
      | .less => a.order? b == some .lt
      | .greater => a.order? b == some .gt
      | .lessOrEqual => a.order? b == some .lt || a.order? b == some .eq
      | .greaterOrEqual => a.order? b == some .gt || a.order? b == some .eq
      | .contains => false

/-! ### Operands and comparisons -/

/-- One side of a comparison. -/
inductive Operand where
  /-- An expression. -/
  | expression (e : Expression)
  /-- The word `empty`. -/
  | empty
  /-- The word `blank`. -/
  | blank
  deriving Inhabited

/-- Reads an operand. -/
def Operand.parse (s : List Char) : Except Error Operand :=
  match String.ofList s with
  | "empty" => .ok .empty
  | "blank" => .ok .blank
  | _ => .expression <$> Expression.parse s

/-- The value of an operand; the words have none. -/
def Operand.evaluate (o : Operand) (c : Context) : Value :=
  match o with
  | expression e => e.evaluate c
  | empty | blank => .nil

/-- One operand, or two with an operator between them. -/
structure Comparison where
  /-- The first operand. -/
  left : Operand
  /-- The operator and the second operand. -/
  right : Option (Operator × Operand)
  deriving Inhabited

/-- What a test, negated or not, says under an operator that is not one of order. -/
def checkWord (op : Operator) (holds : Bool) : Bool :=
  match op with
  | .equal => holds
  | .notEqual => !holds
  | _ => false

/-- What an operator says of a value and `empty`. A list takes part with its length, `empty` with
zero; anything else can only be empty or not. -/
def compareWithEmpty (v : Value) (op : Operator) (emptyFirst : Bool) : Bool :=
  match v.asList? with
  | none => checkWord op (v.isEmpty? == some true)
  | some items =>
    let count := Value.ofNat items.length
    if emptyFirst then op.compare (.integer 0) count else op.compare count (.integer 0)

/-- Whether a comparison holds. -/
def Comparison.evaluate (comparison : Comparison) (c : Context) : Bool :=
  match comparison.right with
  | none => (comparison.left.evaluate c).isTruthy
  | some (op, right) =>
    match comparison.left, right with
    | .empty, other => compareWithEmpty (other.evaluate c) op true
    | other, .empty => compareWithEmpty (other.evaluate c) op false
    | .blank, other => checkWord op (other.evaluate c).isBlank
    | other, .blank => checkWord op (other.evaluate c).isBlank
    | left, right => op.compare (left.evaluate c) (right.evaluate c)

/-- Reads a comparison from its fragments. `markup` is the condition it stands in. -/
def Comparison.parse (markup : String) : List (List Char) → Except Error Comparison
  | [left] => do return ⟨← Operand.parse left, none⟩
  | [left, op, right] =>
    match Operator.ofText? (String.ofList op) with
    | none => .error (.markup (.unknownOperator (String.ofList op)) markup)
    | some op => do
      let left ← Operand.parse left
      let right ← Operand.parse right
      return ⟨left, some (op, right)⟩
  | _ => .error (.markup .condition markup)

/-! ### Conditions -/

/-- A word that joins two comparisons. -/
inductive Join where
  /-- `and` -/
  | and
  /-- `or` -/
  | or
  deriving DecidableEq, Repr

/-- The join that a fragment is. -/
def Join.ofFragment? (s : List Char) : Option Join :=
  match String.ofList s with
  | "and" => some .and
  | "or" => some .or
  | _ => none

/-- A comparison, or one joined to a condition. -/
inductive Condition where
  /-- A single comparison. -/
  | last (comparison : Comparison)
  /-- A comparison joined to what follows. -/
  | join (comparison : Comparison) (join : Join) (rest : Condition)
  deriving Inhabited

namespace Condition

/-- The fragments up to the first join, and the joins with the fragments behind each. -/
def groups : List (List Char) → List (List Char) × List (Join × List (List Char))
  | [] => ([], [])
  | fragment :: rest =>
    let (first, others) := groups rest
    match Join.ofFragment? fragment with
    | some word => ([], (word, first) :: others)
    | none => (fragment :: first, others)

/-- Reads a group of fragments, and behind it joins with their groups. -/
def parseGroups (markup : String) (first : List (List Char)) :
    List (Join × List (List Char)) → Except Error Condition
  | [] => do return last (← Comparison.parse markup first)
  | (word, group) :: others => do
    let comparison ← Comparison.parse markup first
    let rest ← parseGroups markup group others
    return join comparison word rest

/-- Reads a condition. -/
def parse (markup : String) : Except Error Condition :=
  let (first, others) := groups (fragments markup.toList)
  parseGroups markup first others

/-- Whether a condition holds. What follows a join is evaluated only if it decides. -/
def evaluate (c : Context) : Condition → Bool
  | last comparison => comparison.evaluate c
  | join comparison .and rest => comparison.evaluate c && evaluate c rest
  | join comparison .or rest => comparison.evaluate c || evaluate c rest

end Condition

end Liquid
