import Liquid.Decimal.Layout
import Liquid.Decimal.Reader
import Liquid.Text.Pattern
import Liquid.Text.Search

/-!
# Fields in log filters

A directive of a log filter can ask for a field of the events, or for a field with a value.

- `LogValue`: what a field has to hold. A text that is neither a truth value nor a number is a
  regular expression.
- `LogField`: a field that an event must have.
- `LogField.order`: which of two fields asks for less. One without a value does.
-/

namespace Liquid

open Text

/-- What a field has to hold. -/
inductive LogValue where
  /-- A truth value. -/
  | bool (b : Bool)
  /-- A double. -/
  | float (x : Float)
  /-- What is no number. -/
  | nan
  /-- A number of 64 bits without sign. -/
  | natural (n : Nat)
  /-- A number of 64 bits with a sign. -/
  | integer (i : Int64)
  /-- A text that a regular expression matches. -/
  | pattern (text : String)

namespace LogValue

/-- The value that a text stands for. -/
def parse? (text : List Char) : Option LogValue :=
  match String.ofList text with
  | "true" => some (bool true)
  | "false" => some (bool false)
  | string =>
    match Decimal.readNat? UInt64.size text, Decimal.readInt64? text, Decimal.readFloat? text with
    | some n, _, _ => some (natural n)
    | none, some i, _ => some (integer i)
    | none, none, some x => some (if x.isNaN then nan else float x)
    | none, none, none => if Pattern.isWellFormed text then some (pattern string) else none

/-- The text of a value. -/
def toText : LogValue → String
  | bool true => "true"
  | bool false => "false"
  | float x => String.ofList (Decimal.plain.write x)
  | nan => "NaN"
  | natural n => toString n
  | integer i => toString i.toInt
  | pattern text => text

/-- The place of the kind of a value among all kinds. -/
def rank : LogValue → Nat
  | bool _ => 0
  | float _ => 1
  | nan => 2
  | natural _ => 3
  | integer _ => 4
  | pattern _ => 5

/-- The order of values, by kind at first. -/
def order : LogValue → LogValue → Ordering
  | bool a, bool b => compare a b
  | float x, float y => if x < y then .lt else if x == y then .eq else .gt
  | natural m, natural n => compare m n
  | integer i, integer j => compare i.toInt j.toInt
  | pattern s, pattern t => compare s t
  | a, b => compare a.rank b.rank

instance : Ord LogValue := ⟨order⟩

end LogValue

/-- A field that an event must have, and what it must hold. -/
structure LogField where
  /-- The name of the field. -/
  name : String
  /-- The value; none if any will do. -/
  value : Option LogValue := none

namespace LogField

/-- Reads a field: a name, or a name and a value with an equals sign between them. A second equals
sign ends the value. -/
def parse? (text : List Char) : Option LogField :=
  if text.isEmpty then none
  else
    match splitOn ['='] text with
    | name :: value :: _ =>
      (LogValue.parse? value).map fun value => { name := String.ofList name, value := some value }
    | _ => some { name := String.ofList text }

/-- The text of a field. -/
def toText (f : LogField) : String :=
  match f.value with
  | some value => f.name ++ "=" ++ value.toText
  | none => f.name

/-- The order of fields: those without a value first, then by name and by value. -/
def order (f g : LogField) : Ordering :=
  (compare f.value.isSome g.value.isSome).then <|
  (compare f.name g.name).then (compare f.value g.value)

instance : Ord LogField := ⟨order⟩

end LogField

end Liquid
