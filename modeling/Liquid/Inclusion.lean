import Liquid.Expression.Evaluate
import Liquid.Markup.Tag

/-!
# Inclusions

The header of an `include` tag: the name of a template, a value to bind, and attributes.
(`SPEC_FULL.md`, section 5.4.)

- `Inclusion.parse`: reads `'name' [with value | for values] [name: value]*`.
- `Inclusion.bindName`: the name the value is bound to, the last part of the template name.
- `Inclusion.bindings`: the values that the template is rendered with, one after the other.
-/

namespace Liquid

open Text

/-- How an included template gets its value. -/
inductive Binding where
  /-- The value that its name has in the including template. -/
  | implicit
  /-- A value. -/
  | value (e : Expression)
  /-- Each item of a list in turn; what is no list is bound itself. -/
  | each (e : Expression)
  deriving Inhabited

/-- The header of an `include` tag. -/
structure Inclusion where
  /-- The name of the template. -/
  template : String
  /-- The value that is bound to the last part of that name. -/
  binding : Binding
  /-- Further values by name. -/
  attributes : List (String × Expression)
  deriving Inhabited

namespace Inclusion

/-- A value behind `with` or `for`, whether it was `for`, and what follows the value. -/
def takeBinding? (s : List Char) : Option (Bool × List Char × List Char) :=
  let behind : Option (Bool × List Char) := match s with
    | 'w' :: 'i' :: 't' :: 'h' :: rest => some (false, rest)
    | 'f' :: 'o' :: 'r' :: rest => some (true, rest)
    | _ => none
  match behind with
  | some (each, gap :: rest) =>
    if isBlank gap then
      (Markup.takeValue? (trimStart rest)).map fun found => (each, found.1, found.2)
    else none
  | _ => none

/-- Reads the header of an `include` tag. -/
def parse (markup : String) : Except Error Inclusion := do
  match Markup.takeQuoted? (trimStart markup.toList) with
  | none => throw (.markup .includeName markup)
  | some (quoted, behind) =>
    let (binding, rest) ← match takeBinding? (trimStart behind) with
      | some (true, value, rest) => do pure (Binding.each (← Expression.parse value), rest)
      | some (false, value, rest) => do pure (Binding.value (← Expression.parse value), rest)
      | none => pure (Binding.implicit, behind)
    let attributes ← (Markup.attributes rest).mapM fun option => do
      return (String.ofList option.1, ← Expression.parse option.2)
    return ⟨String.ofList quoted.tail.dropLast, binding, attributes⟩

/-- The name that the value is bound to: what follows the last slash of the template name. -/
def bindName (i : Inclusion) : String :=
  String.ofList (i.template.toList.reverse.takeWhile (· != '/')).reverse

/-- The values of the attributes. -/
def attributeValues (i : Inclusion) (c : Context) : List (String × Value) :=
  i.attributes.map fun option => (option.1, option.2.evaluate c)

/-- The values that the template is rendered with, one rendering for each. -/
def bindings (i : Inclusion) (c : Context) : List Value :=
  match i.binding with
  | .implicit => [c.get i.bindName]
  | .value e => [e.evaluate c]
  | .each e =>
    match e.evaluate c with
    | .list items => items
    | v => [v]

end Inclusion

end Liquid
