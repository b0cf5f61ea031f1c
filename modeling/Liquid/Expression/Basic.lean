import Liquid.Value.Text

/-!
# Expressions

The smallest units of a template that have a value.

- `Expression`: a literal, a path such as `product.variants[0].title`, a range `(1..n)`, or a list
  `[a, "b", 3]`.
- `Segment`: one step of a path.
- `Expression.raw`: the markup that an expression stands for, by which loops are named.
-/

namespace Liquid

mutual

/-- A compiled expression. -/
inductive Expression where
  /-- A value written out. -/
  | literal (value : Value)
  /-- A look-up in the scopes, and from there on; `raw` is the path as it was written. -/
  | path (root : String) (segments : List Segment) (raw : String)
  /-- The integers from one bound to the other, both included. -/
  | range (first last : Expression)
  /-- A list of expressions. -/
  | array (items : List Expression)

/-- One step of a path. -/
inductive Segment where
  /-- The member with a given name. -/
  | key (name : String)
  /-- The member that an expression names, or the item that it counts to. -/
  | index (expression : Expression)

end

instance : Inhabited Expression := ⟨.literal .nil⟩

namespace Expression

mutual

/-- The markup that an expression stands for. -/
def raw : Expression → String
  | literal (.string s) => "'" ++ s ++ "'"
  | literal v => v.toText
  | path _ _ text => text
  | range first last => "(" ++ raw first ++ ".." ++ raw last ++ ")"
  | array items => "[" ++ String.intercalate ", " (rawAll items) ++ "]"

/-- The markups of a list of expressions. -/
def rawAll : List Expression → List String
  | [] => []
  | e :: rest => raw e :: rawAll rest

end

end Expression

end Liquid
