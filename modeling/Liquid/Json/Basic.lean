import Liquid.Keyed

/-!
# JSON values

The values of a JSON document. An object holds its members in key order. A number is a whole
number, or a double when it has a fraction or an exponent or is too great for 64 bits.
-/

namespace Liquid

/-- A JSON value. -/
inductive Json where
  /-- The `null` value. -/
  | null
  /-- A truth value. -/
  | bool (b : Bool)
  /-- A whole number between `-2 ^ 63` and `2 ^ 64 - 1`. -/
  | integer (i : Int)
  /-- A finite double. -/
  | float (x : Float)
  /-- A string. -/
  | string (s : String)
  /-- An array. -/
  | array (elements : List Json)
  /-- An object; its members have ascending keys. -/
  | object (members : List (String × Json))
  deriving Inhabited

end Liquid
