import Liquid.Json.Basic
import Liquid.Decimal.Reader

/-!
# Reading JSON

A strict reader: one value, with nothing but blanks around it.

- Strings hold no raw character below U+0020, and no half of a surrogate pair.
- Arrays and objects nest less than `depthLimit` deep.
- Of two members with one key the later stays.
- A number without fraction and exponent is whole if it fits (`-0` is not); else it is a double,
  made from its first digits that fit 64 bits by one multiplication or division with a power of
  ten. A number beyond the doubles is an error.
-/

namespace Liquid.Json

open Liquid.Decimal Liquid.Text

/-- The blanks of JSON. -/
def isSpace (c : Char) : Bool := c == ' ' || c == '\n' || c == '\t' || c == '\r'

/-- The text behind the blanks in front. -/
def skipSpace (s : List Char) : List Char := s.dropWhile isSpace

/-! ### Numbers -/

/-- The power of ten that a significand is scaled by, exactly rounded. -/
def powerOfTen (n : Nat) : Float := ofDecimal false 1 n

/-- Scales by a power of ten. A negative exponent below the table is worked off in steps of 308;
`none` beyond the doubles. -/
def scale? (x : Float) (exponent : Int) : Option Float :=
  if 0 ≤ exponent then
    if exponent ≤ 308 then
      let y := x * powerOfTen exponent.toNat
      if y.isInf then none else some y
    else if x == 0 then some x else none
  else if -308 ≤ exponent then some (x / powerOfTen (-exponent).toNat)
  else if x == 0 then some x
  else scale? (x / powerOfTen 308) (exponent + 308)
termination_by (-exponent).toNat
decreasing_by omega

/-- Takes digits into a significand for as long as it fits 64 bits: the significand, how many
digits it took, and what follows them. -/
def takeSignificand (significand : Nat) : List Char → Nat × Nat × List Char
  | [] => (significand, 0, [])
  | c :: rest =>
    let next := 10 * significand + (c.toNat - '0'.toNat)
    if isAsciiDigit c && next < UInt64.size then
      let (result, count, rest') := takeSignificand next rest
      (result, count + 1, rest')
    else (significand, 0, c :: rest)

/-- The double with a given significand and exponent. -/
def float? (negative : Bool) (significand : Nat) (exponent : Int) : Option Json :=
  (scale? (UInt64.ofNat significand).toFloat exponent).map fun x =>
    .float (if negative then -x else x)

/-- Reads what follows the digits of a number: an exponent or nothing. -/
def readScale (negative : Bool) (significand : Nat) (exponent : Int) (s : List Char) :
    Option (Json × List Char) :=
  match s with
  | [] => (float? negative significand exponent).map (·, [])
  | c :: rest =>
    if c == 'e' || c == 'E' then
      let (negativeExponent, digits) := splitSign rest
      let e := natOfDigits (digits.takeWhile isAsciiDigit)
      let rest' := digits.dropWhile isAsciiDigit
      if (digits.takeWhile isAsciiDigit).isEmpty then none
      else if e < 0x80000000 then
        (float? negative significand (if negativeExponent then exponent - e else exponent + e)).map
          (·, rest')
      else if significand != 0 && !negativeExponent then none
      else some (.float (if negative then -0.0 else 0.0), rest')
    else (float? negative significand exponent).map (·, s)

/-- Reads what follows the whole digits of a number: a fraction or nothing. -/
def readFraction (negative : Bool) (significand : Nat) (exponent : Int) (s : List Char) :
    Option (Json × List Char) :=
  match s with
  | '.' :: rest =>
    if (rest.takeWhile isAsciiDigit).isEmpty then none
    else
      let (significand', count, rest') := takeSignificand significand rest
      readScale negative significand' (exponent - count) (rest'.dropWhile isAsciiDigit)
  | _ => readScale negative significand exponent s

/-- Whether a number goes on with a fraction or an exponent. -/
def continues : List Char → Bool
  | c :: _ => c == '.' || c == 'e' || c == 'E'
  | [] => false

/-- Reads a number without its sign. -/
def readNumber (negative : Bool) (s : List Char) : Option (Json × List Char) :=
  let digits := s.takeWhile isAsciiDigit
  let behind := s.dropWhile isAsciiDigit
  if digits.isEmpty || (digits.head? == some '0' && digits.length > 1) then none
  else
    let (significand, count, _) := takeSignificand 0 digits
    if count < digits.length then
      readFraction negative significand ((digits.length - count : Nat) : Int) behind
    else if continues behind then readFraction negative significand 0 behind
    else if !negative then some (.integer significand, behind)
    else if significand == 0 || Decimal.signBit < significand then
      some (.float (-(UInt64.ofNat significand).toFloat), behind)
    else some (.integer (-(significand : Int)), behind)

/-! ### Strings -/

/-- The value of a hexadecimal digit. -/
def hexValue? (c : Char) : Option Nat :=
  if isAsciiDigit c then some (c.toNat - '0'.toNat)
  else if 'a' ≤ c && c ≤ 'f' then some (c.toNat - 'a'.toNat + 10)
  else if 'A' ≤ c && c ≤ 'F' then some (c.toNat - 'A'.toNat + 10)
  else none

/-- Reads four hexadecimal digits. -/
def readHex4 : List Char → Option (Nat × List Char)
  | a :: b :: c :: d :: rest => do
    let a ← hexValue? a
    let b ← hexValue? b
    let c ← hexValue? c
    let d ← hexValue? d
    some (((a * 16 + b) * 16 + c) * 16 + d, rest)
  | _ => none

/-- Reads the character that follows a `\u`: four digits, or two halves of a surrogate pair. -/
def readCodePoint (s : List Char) : Option (Char × List Char) := do
  let (high, rest) ← readHex4 s
  if 0xDC00 ≤ high && high ≤ 0xDFFF then none
  else if 0xD800 ≤ high && high ≤ 0xDBFF then
    match rest with
    | '\\' :: 'u' :: rest =>
      let (low, rest) ← readHex4 rest
      if 0xDC00 ≤ low && low ≤ 0xDFFF then
        some (Char.ofNat (0x10000 + (high - 0xD800) * 0x400 + (low - 0xDC00)), rest)
      else none
    | _ => none
  else some (Char.ofNat high, rest)

/-- The character that a letter stands for behind a backslash. -/
def unescape? : Char → Option Char
  | '"' => some '"'
  | '\\' => some '\\'
  | '/' => some '/'
  | 'b' => some '\x08'
  | 'f' => some '\x0c'
  | 'n' => some '\n'
  | 'r' => some '\r'
  | 't' => some '\t'
  | _ => none

/-- Reads a string up to its closing quote, with the characters read so far back to front. There
are no more characters than `fuel`. -/
def readString : (fuel : Nat) → (read : List Char) → List Char → Option (String × List Char)
  | 0, _, _ => none
  | fuel + 1, read, s =>
    match s with
    | [] => none
    | '"' :: rest => some (String.ofList read.reverse, rest)
    | '\\' :: 'u' :: rest =>
      match readCodePoint rest with
      | some (c, rest) => readString fuel (c :: read) rest
      | none => none
    | '\\' :: c :: rest =>
      match unescape? c with
      | some c => readString fuel (c :: read) rest
      | none => none
    | c :: rest => if c.toNat < 0x20 || c == '\\' then none else readString fuel (c :: read) rest

/-! ### Values -/

/-- How deep arrays and objects may nest, plus one. -/
def depthLimit : Nat := 128

mutual

/-- Reads a value, with blanks in front. At most `fuel` steps are taken, more than there are
characters, and arrays and objects nest less than `depth` deep. -/
def readValue : (fuel depth : Nat) → List Char → Option (Json × List Char)
  | 0, _, _ => none
  | fuel + 1, depth, s =>
    match skipSpace s with
    | 'n' :: 'u' :: 'l' :: 'l' :: rest => some (.null, rest)
    | 't' :: 'r' :: 'u' :: 'e' :: rest => some (.bool true, rest)
    | 'f' :: 'a' :: 'l' :: 's' :: 'e' :: rest => some (.bool false, rest)
    | '"' :: rest => (readString (fuel + 1) [] rest).map fun r => (.string r.1, r.2)
    | '-' :: rest => readNumber true rest
    | '[' :: rest =>
      if depth ≤ 1 then none
      else
        match skipSpace rest with
        | ']' :: rest => some (.array [], rest)
        | rest => readElements fuel (depth - 1) [] rest
    | '\x7b' :: rest =>
      if depth ≤ 1 then none
      else
        match skipSpace rest with
        | '\x7d' :: rest => some (.object [], rest)
        | rest => readMembers fuel (depth - 1) [] rest
    | rest => readNumber false rest

/-- Reads the elements of an array, with those read so far back to front. -/
def readElements : (fuel depth : Nat) → List Json → List Char → Option (Json × List Char)
  | 0, _, _, _ => none
  | fuel + 1, depth, read, s =>
    match readValue fuel depth s with
    | none => none
    | some (j, rest) =>
      match skipSpace rest with
      | ',' :: rest => readElements fuel depth (j :: read) rest
      | ']' :: rest => some (.array (j :: read).reverse, rest)
      | _ => none

/-- Reads the members of an object, with those read so far in key order. -/
def readMembers : (fuel depth : Nat) → List (String × Json) → List Char →
    Option (Json × List Char)
  | 0, _, _, _ => none
  | fuel + 1, depth, read, s =>
    match skipSpace s with
    | '"' :: rest =>
      match readString (fuel + 1) [] rest with
      | none => none
      | some (key, rest) =>
        match skipSpace rest with
        | ':' :: rest =>
          match readValue fuel depth rest with
          | none => none
          | some (j, rest) =>
            match skipSpace rest with
            | ',' :: rest => readMembers fuel depth (Keyed.insert key j read) rest
            | '\x7d' :: rest => some (.object (Keyed.insert key j read), rest)
            | _ => none
        | _ => none
    | _ => none

end

/-- Reads a whole document. -/
def parse? (s : String) : Option Json :=
  let text := s.toList
  match readValue (2 * text.length + 2) depthLimit text with
  | some (j, rest) => if (skipSpace rest).isEmpty then some j else none
  | none => none

end Liquid.Json
