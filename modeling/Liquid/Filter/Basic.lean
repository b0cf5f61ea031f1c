import Liquid.Value.Text
import Liquid.Value.Number
import Liquid.Error

/-!
# Filters

A filter takes the value that is piped into it and its arguments, and gives a value or an error.
(`SPEC_FULL.md`, section 5.5.)

- `FilterRegistry`: filters by name. A name that is not in it leaves the value as it is.
- `Filter.onText`, `Filter.onTextUnlessNil`, `Filter.ofValue`: filters that never fail, from
  functions.
- `Filter.textArgument`, `Filter.integerArgument?`: what a filter reads off its arguments.
-/

namespace Liquid

/-- A filter: from the value piped in and the arguments to a value. -/
abbrev Filter := Value → List Value → Except Error Value

/-- Filters by name. -/
abbrev FilterRegistry := Keyed Filter

/-- Applies the filter of a name. An unknown name gives the value back. -/
def FilterRegistry.apply (filters : FilterRegistry) (name : String) (value : Value)
    (arguments : List Value) : Except Error Value :=
  match Keyed.get? name filters with
  | some filter => filter value arguments
  | none => .ok value

namespace Filter

/-- The text of an argument; a missing one has none. -/
def textArgument (arguments : List Value) (i : Nat) : List Char :=
  (arguments[i]?.map Value.toChars).getD []

/-- The text of an argument, or of what stands for a missing one. -/
def textArgumentOr (default : String) (arguments : List Value) (i : Nat) : List Char :=
  (arguments[i]?.map Value.toChars).getD default.toList

/-- An argument as an integer. -/
def integerArgument? (arguments : List Value) (i : Nat) : Option Int64 :=
  arguments[i]?.bind Value.asInteger?

/-- The number of things that an argument asks for; a negative one asks for none. -/
def countArgument (default : Int64) (arguments : List Value) (i : Nat) : Nat :=
  ((integerArgument? arguments i).getD default).toInt.toNat

/-- A filter that needs nothing but the value. -/
def ofValue (f : Value → Value) : Filter := fun value _ => .ok (f value)

/-- A filter on the text of a value. -/
def onText (f : List Char → List Char) : Filter := fun value _ => .ok (.ofChars (f value.toChars))

/-- A filter on the text of a value that leaves nil alone. -/
def onTextUnlessNil (f : List Char → List Char) : Filter := fun value _ =>
  .ok (if value.isNil then .nil else .ofChars (f value.toChars))

end Filter

end Liquid
