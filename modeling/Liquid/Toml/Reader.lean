import Liquid.Toml.Scalar

/-!
# Reading TOML

- `readValue`: a value, with arrays and tables in braces, which may nest less than eighty deep.
- `readDocument`: the lines of a document: headers, and keys with values.
- `Toml.parse?`: the table of a whole document.
-/

namespace Liquid.Toml

open Liquid.Text

/-! ### Keys -/

/-- How deep arrays and tables may nest, and how long keys may be, plus one. -/
def depthLimit : Nat := 80

/-- A character of a key without quotes. -/
def isKeyChar (c : Char) : Bool := isAsciiAlphanumeric c || c == '_' || c == '-'

/-- Takes a part of a key off a text. -/
def takeKeyPart? (s : List Char) : Option (String × List Char) :=
  match s with
  | '"' :: _ | '\'' :: _ => (takeLine? s).map fun taken => (String.ofList taken.1, taken.2)
  | s =>
    match s.takeWhile isKeyChar with
    | [] => none
    | part => some (String.ofList part, s.dropWhile isKeyChar)

/-- Takes a key off a text: parts with dots between them, and blanks around each. -/
def readKey : (fuel : Nat) → List Char → Option (List String × List Char)
  | 0, _ => none
  | fuel + 1, s =>
    match takeKeyPart? (skipBlanks s) with
    | none => none
    | some (part, rest) =>
      match skipBlanks rest with
      | '.' :: rest => (readKey fuel rest).map fun taken => (part :: taken.1, taken.2)
      | rest => some ([part], rest)

/-- Takes a key off a text: the parts but the last one, and the last one. -/
def takeKey? (s : List Char) : Option ((List String × String) × List Char) :=
  match readKey (depthLimit - 1) s with
  | some (parts, rest) => parts.getLast?.map fun last => ((parts.dropLast, last), rest)
  | none => none

/-! ### Values -/

/-- What follows a comment, apart from its end of line; the text itself if it is none. -/
def skipComment : List Char → List Char
  | '#' :: rest => rest.dropWhile isPlain
  | s => s

/-- Skips blanks, comments and ends of lines between the items of an array. -/
def skipGap : (fuel : Nat) → List Char → List Char
  | 0, s => s
  | fuel + 1, s =>
    let rest := skipComment (skipBlanks s)
    match takeNewline? rest with
    | some rest => skipGap fuel rest
    | none => rest

mutual

/-- Takes a value off a text. At most `fuel` steps are taken, and values nest less than `depth`
deep. -/
def readValue : (fuel depth : Nat) → List Char → Option (Toml × List Char)
  | 0, _, _ => none
  | fuel + 1, depth, s =>
    match s with
    | '"' :: _ | '\'' :: _ =>
      (takeString? s).map fun taken => (.string (String.ofList taken.1), taken.2)
    | '[' :: rest =>
      if depth ≤ 1 then none else readItems fuel (depth - 1) [] (skipGap fuel rest)
    | '\x7b' :: rest =>
      if depth ≤ 1 then none
      else
        match skipBlanks rest with
        | '\x7d' :: rest => some (.table .braces [], rest)
        | rest => readEntries fuel (depth - 1) [] rest
    | 't' :: 'r' :: 'u' :: 'e' :: rest => some (.bool true, rest)
    | 'f' :: 'a' :: 'l' :: 's' :: 'e' :: rest => some (.bool false, rest)
    | s => takeDateOrNumber? s

/-- Reads the items of an array, with those read so far back to front. A comma may stand behind the
last one. -/
def readItems : (fuel depth : Nat) → List Toml → List Char → Option (Toml × List Char)
  | 0, _, _, _ => none
  | fuel + 1, depth, read, s =>
    match s with
    | ']' :: rest => some (.array read.reverse, rest)
    | s =>
      match readValue fuel depth s with
      | none => none
      | some (v, rest) =>
        match skipGap fuel rest with
        | ',' :: rest => readItems fuel depth (v :: read) (skipGap fuel rest)
        | ']' :: rest => some (.array (v :: read).reverse, rest)
        | _ => none

/-- Reads the entries of a table in braces, which stands on one line. -/
def readEntries : (fuel depth : Nat) → Entries → List Char → Option (Toml × List Char)
  | 0, _, _, _ => none
  | fuel + 1, depth, read, s =>
    match takeKey? s with
    | some ((path, key), '=' :: rest) =>
      match readValue fuel depth (skipBlanks rest) with
      | none => none
      | some (v, rest) =>
        match put key v path read, skipBlanks rest with
        | some read, ',' :: rest => readEntries fuel depth read rest
        | some read, '\x7d' :: rest => some (.table .braces read, rest)
        | _, _ => none
    | _ => none

end

/-! ### Documents -/

/-- What follows the end of a line, which may have a comment in front of it. -/
def endLine? (s : List Char) : Option (List Char) :=
  match skipComment (skipBlanks s) with
  | [] => some []
  | rest => takeNewline? rest

/-- Takes a key and a value off a line. -/
def takeEntry? (s : List Char) : Option ((List String × String) × Toml × List Char) := do
  let (key, rest) ← takeKey? s
  let rest ← after? ['='] rest
  let (value, rest) ← readValue (2 * s.length + 2) depthLimit (skipBlanks rest)
  some (key, value, ← endLine? rest)

/-- Takes a header with its closing brackets off a line. -/
def takeHeader? (closing s : List Char) : Option ((List String × String) × List Char) := do
  let (key, rest) ← takeKey? s
  some (key, ← endLine? (← after? closing rest))

/-- Reads the lines of a document into `root`. `header` leads to the table that the keys belong
to. There are no more lines than `fuel`. -/
def readDocument : (fuel : Nat) → (header : List String) → (root : Entries) → List Char →
    Option Entries
  | 0, _, _, _ => none
  | fuel + 1, header, root, s =>
    match skipBlanks s with
    | [] => some root
    | '\n' :: rest => readDocument fuel header root rest
    | '\r' :: '\n' :: rest => readDocument fuel header root rest
    | '#' :: rest =>
      match endLine? ('#' :: rest) with
      | some rest => readDocument fuel header root rest
      | none => none
    | '[' :: '[' :: rest =>
      match takeHeader? [']', ']'] rest with
      | none => none
      | some ((path, key), rest) =>
        match update (pushTable key) path root with
        | some root => readDocument fuel (path ++ [key]) root rest
        | none => none
    | '[' :: rest =>
      match takeHeader? [']'] rest with
      | none => none
      | some ((path, key), rest) =>
        match update (openTable key) path root with
        | some root => readDocument fuel (path ++ [key]) root rest
        | none => none
    | rest =>
      match takeEntry? rest with
      | none => none
      | some ((path, key), value, rest) =>
        match update (put key value path) header root with
        | some root => readDocument fuel header root rest
        | none => none

/-- Reads a whole document. A byte order mark in front of it does not count. -/
def parse? (s : String) : Option Toml :=
  let text := match s.toList with
    | '\ufeff' :: rest => rest
    | text => text
  (readDocument (text.length + 1) [] [] text).map (.table .header)

end Liquid.Toml
