import Liquid.Engine
import Liquid.Proofs.Expression.Roots

/-!
# The expressions of a template

Everything that a template reads from a context, it reads through expressions.

- `Node.expressions`, `expressionsAll`: the expressions that stand in nodes, in their headers and in
  their bodies. An `include` without a value has the expression that its bound name is.
- `Template.roots`: the names that a template reads.
-/

namespace Liquid

/-- The expressions of a pipeline. -/
def Pipeline.expressions (p : Pipeline) : List Expression :=
  p.base.toList ++ p.filters.flatMap FilterCall.arguments

/-- The expressions of an operand. -/
def Operand.expressions : Operand → List Expression
  | expression e => [e]
  | empty | blank => []

/-- The expressions of a comparison. -/
def Comparison.expressions (comparison : Comparison) : List Expression :=
  comparison.left.expressions ++ comparison.right.toList.flatMap fun right => right.2.expressions

/-- The expressions of a condition. -/
def Condition.expressions : Condition → List Expression
  | last comparison => comparison.expressions
  | join comparison _ rest => comparison.expressions ++ rest.expressions

/-- The expressions of a loop option. -/
def LoopAttribute.expressions : LoopAttribute → List Expression
  | expression e => [e]
  | resume => []

/-- The expressions of the header of a loop. -/
def LoopHeader.expressions (header : LoopHeader) : List Expression :=
  header.collection :: header.attributes.flatMap fun option => option.2.expressions

/-- The expressions of a cycle. -/
def Cycle.expressions (cycle : Cycle) : List Expression := cycle.group.toList ++ cycle.values

/-- The expression that gives the value of an `include`; where none is written, the bound name is
read as one. -/
def Inclusion.source (header : Inclusion) : List Expression :=
  match header.binding with
  | .implicit => (Expression.parse header.bindName.toList).toOption.toList
  | .value e => [e]
  | .each e => [e]

/-- The expressions of the header of an `include`. -/
def Inclusion.expressions (header : Inclusion) : List Expression :=
  header.source ++ header.attributes.map Prod.snd

mutual

/-- The expressions of a node. -/
def Node.expressions : Node → List Expression
  | .text _ | .comment | .raw _ => []
  | .output pipeline => pipeline.expressions
  | .assign _ pipeline => pipeline.expressions
  | .capture _ body => expressionsAll body
  | .cycle cycle => cycle.expressions
  | .loop header body otherwise =>
    header.expressions ++ (expressionsAll body ++ expressionsAll otherwise)
  | .branch _ branches otherwise => branchesExpressions branches ++ expressionsAll otherwise
  | .case subject clauses otherwise =>
    subject :: (clausesExpressions clauses ++ expressionsAll otherwise)
  | .inclusion header body => header.expressions ++ expressionsAll body
  | .table header body => header.expressions ++ expressionsAll body
  | .host _ _ arguments bodies => arguments ++ bodiesExpressions bodies

/-- The expressions of several nodes. -/
def expressionsAll : List Node → List Expression
  | [] => []
  | node :: rest => node.expressions ++ expressionsAll rest

/-- The expressions of the bodies of a registered tag. -/
def bodiesExpressions : List (List Node) → List Expression
  | [] => []
  | body :: rest => expressionsAll body ++ bodiesExpressions rest

/-- The expressions of the branches of an `if`. -/
def branchesExpressions : List (Condition × List Node) → List Expression
  | [] => []
  | (condition, body) :: rest =>
    condition.expressions ++ (expressionsAll body ++ branchesExpressions rest)

/-- The expressions of the clauses of a `case`. -/
def clausesExpressions : List (List Expression × List Node) → List Expression
  | [] => []
  | (values, body) :: rest => values ++ (expressionsAll body ++ clausesExpressions rest)

end

/-- The names that the paths of a template begin with. -/
def Template.roots (template : Template) : List String :=
  Expression.rootsAll (expressionsAll template.nodes)

end Liquid
