import Liquid.Text.CharClass

/-!
# Regular expressions

Whether a text is a well-formed regular expression. Apart from the usual operators there are groups
with names and flags, nested classes with set operations, and escapes. There are no references back
to a group, no look-around and no word boundaries. Repetitions and characters that are written with
braces are not read either.

- `Pattern.escape?`: what a backslash and the characters behind it stand for.
- `Pattern.behindClass?`: the text behind a class in brackets.
- `Pattern.behindOpening?`: the text behind the opening of a group.
- `Pattern.isWellFormed`: the whole expression.
-/

namespace Liquid.Text.Pattern

/-! ### Escapes -/

/-- A part of an expression that matches at most one character. -/
inductive Atom where
  /-- One character. -/
  | character (c : Char)
  /-- Any character of a class. -/
  | set
  /-- The start or the end of a text. -/
  | anchor

/-- The letters of the character classes that are escapes. -/
def classLetters : List Char := ['d', 's', 'w', 'D', 'S', 'W']

/-- The letters that name a general category, in lower case. -/
def categoryLetters : List Char := ['c', 'l', 'm', 'n', 'p', 's', 'z']

/-- The control characters that letters stand for. -/
def controls : List (Char × Char) :=
  [('a', '\x07'), ('f', '\x0c'), ('t', '\t'), ('n', '\n'), ('r', '\r'), ('v', '\x0b')]

/-- The value of a hexadecimal digit. -/
def hexDigit? (c : Char) : Option Nat :=
  if isAsciiDigit c then some (c.toNat - '0'.toNat)
  else
    let lower := c.toLower
    if 'a' ≤ lower && lower ≤ 'f' then some (lower.toNat - 'a'.toNat + 10) else none

/-- Reads a character that is written as a number of so many hexadecimal digits. -/
def number? (digits : Nat) (s : List Char) : Option (Atom × List Char) := do
  if s.length < digits then none
  let values ← (s.take digits).mapM hexDigit?
  let n := values.foldl (fun n digit => 16 * n + digit) 0
  if n.isValidChar then return (.character (Char.ofNat n), s.drop digits) else none

/-- Reads what follows a backslash. -/
def escape? : List Char → Option (Atom × List Char)
  | [] => none
  | c :: rest =>
    if c = 'x' then number? 2 rest
    else if c = 'u' then number? 4 rest
    else if c = 'U' then number? 8 rest
    else if c = 'p' ∨ c = 'P' then
      match rest with
      | category :: rest =>
        if categoryLetters.contains category.toLower then some (.set, rest) else none
      | [] => none
    else if classLetters.contains c then some (.set, rest)
    else if c = 'A' ∨ c = 'z' then some (.anchor, rest)
    else
      match controls.lookup c with
      | some control => some (.character control, rest)
      | none =>
        if c.toNat < 0x80 && !isAsciiAlphanumeric c && c != '<' && c != '>' then
          some (.character c, rest)
        else none

/-! ### Classes -/

/-- The names of the classes that are written between `[:` and `:]`. -/
def classNames : List String :=
  ["alnum", "alpha", "ascii", "blank", "cntrl", "digit", "graph", "lower", "print", "punct",
   "space", "upper", "word", "xdigit"]

/-- The text behind the bracket of a named class, if one begins here. -/
def behindNamedClass? : List Char → Option (List Char)
  | ':' :: rest =>
    let rest := match rest with
      | '^' :: rest => rest
      | rest => rest
    let name := rest.takeWhile (· != ':')
    match rest.drop name.length with
    | ':' :: ']' :: behind => if classNames.contains (String.ofList name) then some behind else none
    | _ => none
  | _ => none

/-- What follows the opening of a class: a caret negates it, and hyphens, or else a closing bracket,
stand for themselves there. -/
def openClass (s : List Char) : List Char :=
  let s := match s with
    | '^' :: rest => rest
    | s => s
  match s with
  | '-' :: rest => rest.dropWhile (· == '-')
  | ']' :: rest => rest
  | s => s

/-- Reads an atom inside a class. -/
def classAtom? : List Char → Option (Atom × List Char)
  | [] => none
  | '\\' :: rest => escape? rest
  | c :: rest => some (.character c, rest)

/-- Reads an item of a class: an atom or a range of characters. -/
def behindItem? (s : List Char) : Option (List Char) :=
  match classAtom? s with
  | none => none
  | some (first, '-' :: c :: rest) =>
    if c = ']' ∨ c = '-' then
      match first with
      | .anchor => none
      | _ => some ('-' :: c :: rest)
    else
      match first, classAtom? (c :: rest) with
      | .character a, some (.character b, behind) => if a ≤ b then some behind else none
      | _, _ => none
  | some (.anchor, _) => none
  | some (_, rest) => some rest

/-- The text behind a class of which so many brackets are open. There are no more characters than
`fuel`. -/
def behindClass? : (fuel depth : Nat) → List Char → Option (List Char)
  | 0, _, _ => none
  | fuel + 1, depth, s =>
    match s with
    | [] => none
    | '[' :: rest =>
      match behindNamedClass? rest with
      | some behind => behindClass? fuel depth behind
      | none => behindClass? fuel (depth + 1) (openClass rest)
    | ']' :: rest => if depth ≤ 1 then some rest else behindClass? fuel (depth - 1) rest
    | '&' :: '&' :: rest => behindClass? fuel depth rest
    | '-' :: '-' :: rest => behindClass? fuel depth rest
    | '~' :: '~' :: rest => behindClass? fuel depth rest
    | s => (behindItem? s).bind (behindClass? fuel depth)

/-! ### Groups -/

/-- Whether a text can be the name of a group. -/
def isGroupName : List Char → Bool
  | [] => false
  | c :: rest =>
    (c == '_' || CharClass.alphabetic.holds c.toNat)
      && rest.all fun c => isAlphanumeric c || c == '_' || c == '.' || c == '[' || c == ']'

/-- The letters of the flags, and the hyphen in front of those that are switched off. -/
def flagLetters : List Char := ['i', 'm', 's', 'U', 'u', 'x', 'R', '-']

/-- Whether a text holds flags, each at most once, and ends in one of them. -/
def isFlags (s : List Char) : Bool :=
  s.all flagLetters.contains && s.Nodup && s.getLast? != some '-'

/-- The text behind the opening parenthesis of a group and all that belongs to it, and whether a
group is open there. Flags can stand without a group. The `names` of groups are taken. -/
def behindOpening? (names : List (List Char)) (s : List Char) :
    Option (Bool × List (List Char) × List Char) :=
  let named (rest : List Char) :=
    let name := rest.takeWhile (· != '>')
    match rest.drop name.length with
    | _ :: behind =>
      if isGroupName name && !names.contains name then some (true, name :: names, behind) else none
    | [] => none
  match s with
  | '?' :: 'P' :: '<' :: rest => named rest
  | '?' :: '<' :: rest => named rest
  | '?' :: rest =>
    let flags := rest.takeWhile fun c => c != ':' && c != ')'
    match rest.drop flags.length with
    | ':' :: behind => if isFlags flags then some (true, names, behind) else none
    | ')' :: behind => if isFlags flags && !flags.isEmpty then some (false, names, behind) else none
    | _ => none
  | s => some (true, names, s)

/-! ### Expressions -/

/-- Whether a text completes an expression in which `depth` groups are open. `operand` says that
something stands in front that can be repeated. There are no more characters than `fuel`. -/
def completes : (fuel depth : Nat) → (names : List (List Char)) → (operand : Bool) → List Char →
    Bool
  | 0, _, _, _, _ => false
  | fuel + 1, depth, names, operand, s =>
    match s with
    | [] => depth == 0
    | '(' :: rest =>
      match behindOpening? names rest with
      | some (true, names, behind) => completes fuel (depth + 1) names false behind
      | some (false, names, behind) => completes fuel depth names false behind
      | none => false
    | ')' :: rest => 0 < depth && completes fuel (depth - 1) names true rest
    | '|' :: rest => completes fuel depth names false rest
    | '[' :: rest =>
      match behindClass? (fuel + 1) 1 (openClass rest) with
      | some behind => completes fuel depth names true behind
      | none => false
    | '\\' :: rest =>
      match escape? rest with
      | some (_, behind) => completes fuel depth names true behind
      | none => false
    | '{' :: _ => false
    | c :: rest =>
      if c = '*' ∨ c = '+' ∨ c = '?' then operand && completes fuel depth names true rest
      else completes fuel depth names true rest

/-- Whether a text is a well-formed expression. -/
def isWellFormed (s : List Char) : Bool := completes (s.length + 1) 0 [] false s

end Liquid.Text.Pattern
