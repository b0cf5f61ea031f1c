import Liquid.Expression.Evaluate

/-!
# Pipelines

What stands in `{{ … }}` and behind the equals sign of an `assign`: an expression, and filters that
its value goes through. (`SPEC_FULL.md`, sections 5.2 and 5.5.)

- `FilterCall`: a filter name with arguments.
- `Pipeline`: an expression, or nothing, with filter calls.
- `Pipeline.parse`: reads `expression | name: argument, argument | name`.
- `Pipeline.evaluate`: the value at the end, or the error of a filter.
-/

namespace Liquid

open Text

/-- A filter in a pipeline. -/
structure FilterCall where
  /-- The name of the filter. -/
  name : String
  /-- Its arguments, evaluated when it is applied. -/
  arguments : List Expression
  deriving Inhabited

/-- An expression with the filters that its value goes through. -/
structure Pipeline where
  /-- The expression; none for empty markup. -/
  base : Option Expression
  /-- The filters, in the order in which they are applied. -/
  filters : List FilterCall
  deriving Inhabited

/-- Whether a text can name a filter: letters and digits of any script, and `_`. -/
def FilterCall.isName (name : List Char) : Bool :=
  !name.isEmpty && name.all fun c => isAlphanumeric c || c == '_'

/-- The name of a filter, and what stands behind the colon. -/
def FilterCall.split (s : List Char) : List Char × List Char :=
  match cutUnquoted? ':' s with
  | some cut => (trim cut.1, trim cut.2)
  | none => (s, [])

/-- Reads a filter call. `markup` is the pipeline it stands in. -/
def FilterCall.parse (markup : String) (s : List Char) : Except Error FilterCall := do
  let (name, rest) := FilterCall.split s
  if !FilterCall.isName name then
    throw (.markup (.filterName (String.ofList name)) markup)
  let arguments ← if rest.isEmpty then pure [] else
    (splitUnquoted ',' rest).mapM Expression.parse
  return ⟨String.ofList name, arguments⟩

namespace Pipeline

/-- Reads a pipeline. -/
def parse (markup : String) : Except Error Pipeline := do
  let pieces := splitUnquoted '|' markup.toList
  let text := trim (pieces.headD [])
  let base ← if text.isEmpty then pure none else some <$> Expression.parse text
  let filters ← pieces.tail.mapM fun piece => FilterCall.parse markup (trim piece)
  return ⟨base, filters⟩

/-- Sends a value through filters, one after the other. -/
def applyAll (c : Context) : List FilterCall → Value → Except Error Value
  | [], v => .ok v
  | call :: rest, v => do
    let v ← c.filters.apply call.name v (call.arguments.map (·.evaluate c))
    applyAll c rest v

/-- The value at the end of a pipeline. -/
def evaluate (p : Pipeline) (c : Context) : Except Error Value :=
  applyAll c p.filters ((p.base.map (·.evaluate c)).getD .nil)

end Pipeline

end Liquid
