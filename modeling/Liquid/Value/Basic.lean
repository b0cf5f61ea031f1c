import Liquid.Keyed

/-!
# Values

The values that flow through a template: host data, literals and what filters return.
(`SPEC_FULL.md`, section 4.)

- `Value`: nil, truth values, integers of 64 bits, doubles, strings, lists, dictionaries and drops.
- `Drop`: an object of the host. A drop has an identity: two drops are equal only if they are the
  same one. What its attributes are is for the host to say, in the context that reads them.
- `Value.same`: equality of values, under which an integer equals the double of its value.
- `Value.isTruthy`, `Value.isBlank`, `Value.length?`: what conditions and filters ask of a value.
-/

namespace Liquid

mutual

/-- A value of a template. -/
inductive Value where
  /-- The absence of a value, which every look-up that finds nothing gives. -/
  | nil
  /-- A truth value. -/
  | bool (b : Bool)
  /-- An integer of 64 bits. -/
  | integer (i : Int64)
  /-- A double. -/
  | float (x : Float)
  /-- A string. -/
  | string (s : String)
  /-- A list. -/
  | list (items : List Value)
  /-- A dictionary; its keys ascend strictly. -/
  | dict (entries : List (String × Value))
  /-- An object of the host. -/
  | drop (d : Drop)

/-- An object of the host. -/
structure Drop where
  /-- Which object it is. -/
  identity : Nat
  /-- The text that a template prints for it. -/
  text : String
  /-- The attributes that templates may read, by name. -/
  hasKey : String → Bool
  /-- The value that it stands for, if it stands for one. -/
  plain? : Option Value

end

instance : Inhabited Value := ⟨.nil⟩

namespace Value

/-- The value of a natural number; the greatest integer stands for all that are greater. -/
def ofNat (n : Nat) : Value := .integer (Int64.ofInt (min n 0x7FFFFFFFFFFFFFFF : Nat))

/-- A string from its characters. -/
def ofChars (s : List Char) : Value := .string (String.ofList s)

/-- Whether a value is nil. -/
def isNil : Value → Bool
  | nil => true
  | _ => false

/-- Whether a value passes a test on its own: nil, false, zero and the empty string do not. -/
def isTruthy : Value → Bool
  | nil => false
  | bool b => b
  | integer i => i != 0
  | float x => x != 0
  | string s => s != ""
  | list _ | dict _ | drop _ => true

/-- Whether a value is nil, false, or an empty string, list or dictionary. -/
def isBlank : Value → Bool
  | nil => true
  | bool b => !b
  | string s => s == ""
  | list items => items.isEmpty
  | dict entries => entries.isEmpty
  | _ => false

/-- The number of items of a list or a dictionary, or of characters of a string. -/
def length? : Value → Option Nat
  | string s => some s.toList.length
  | list items => some items.length
  | dict entries => some entries.length
  | _ => none

/-- Whether a value that has a length has none of it. -/
def isEmpty? (v : Value) : Option Bool := v.length?.map (· == 0)

/-- Whether a value is an integer or a double. -/
def isNumber : Value → Bool
  | integer _ | float _ => true
  | _ => false

/-- The contents of a string. -/
def asString? : Value → Option String
  | string s => some s
  | _ => none

/-- The items of a list. -/
def asList? : Value → Option (List Value)
  | list items => some items
  | _ => none

/-- The value that a drop stands for, and any other value itself. -/
def normalize : Value → Value
  | drop d => d.plain?.getD (drop d)
  | v => v

end Value

end Liquid
