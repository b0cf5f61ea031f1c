import Liquid.Json.Basic

/-!
# TOML values

The tree of a TOML document, built up entry by entry.

- `Toml`: the values. A table remembers its `Origin`, on which it depends whether the document may
  still add to it.
- `Toml.update`: changes the entries that a header leads to. Tables on the way are made.
- `Toml.openTable`, `Toml.pushTable`, `Toml.put`: what `[header]`, `[[header]]` and `key = value`
  do. None of them ever replaces anything: a second definition is refused.
- `Toml.toJson`: a value as JSON. Dates become strings.
-/

namespace Liquid

/-- What a table comes from. -/
inductive Origin where
  /-- From braces; nothing can be added to it. -/
  | braces
  /-- From a header of its own. -/
  | header
  /-- From a header of a table inside it; it may get a header of its own later. -/
  | onTheWay
  /-- From a dotted key; further dotted keys can add to it. -/
  | dotted
  deriving DecidableEq, Repr

/-- A TOML value. -/
inductive Toml where
  /-- A string. -/
  | string (s : String)
  /-- An integer of 64 bits. -/
  | integer (i : Int)
  /-- A double. -/
  | float (x : Float)
  /-- A truth value. -/
  | bool (b : Bool)
  /-- A date, a time or both, in its standard form. -/
  | date (text : String)
  /-- An array. -/
  | array (items : List Toml)
  /-- A table; its keys ascend. -/
  | table (origin : Origin) (entries : List (String × Toml))
  /-- An array of tables that stand under headers of their own, the last one first. -/
  | tables (elements : List (List (String × Toml)))

namespace Toml

/-- The entries of a table. -/
abbrev Entries := Keyed Toml

/-- Changes the entries that a header leads to, starting from `entries`. Tables that are missing on
the way are made; of an array of tables the last one is meant. -/
def update (change : Entries → Option Entries) : (path : List String) → Entries → Option Entries
  | [], entries => change entries
  | key :: path, entries =>
    match Keyed.get? key entries with
    | none =>
      (update change path []).map fun inner => Keyed.insert key (.table .onTheWay inner) entries
    | some (.table .braces _) => none
    | some (.table origin inner) =>
      (update change path inner).map fun inner => Keyed.insert key (.table origin inner) entries
    | some (.tables (last :: others)) =>
      (update change path last).map fun last =>
        Keyed.insert key (.tables (last :: others)) entries
    | some _ => none

/-- Begins the table of a header. -/
def openTable (key : String) (entries : Entries) : Option Entries :=
  match Keyed.get? key entries with
  | none => some (Keyed.insert key (.table .header []) entries)
  | some (.table .onTheWay inner) => some (Keyed.insert key (.table .header inner) entries)
  | some _ => none

/-- Begins another table of an array of tables. -/
def pushTable (key : String) (entries : Entries) : Option Entries :=
  match Keyed.get? key entries with
  | none => some (Keyed.insert key (.tables [[]]) entries)
  | some (.tables elements) => some (Keyed.insert key (.tables ([] :: elements)) entries)
  | some _ => none

/-- Puts a value under a key that is not there yet. -/
def putHere (key : String) (value : Toml) (entries : Entries) : Option Entries :=
  if Keyed.contains key entries then none else some (Keyed.insert key value entries)

/-- Puts a value under a dotted key: `key` in the table that `path` leads to. That table must come
from dotted keys, too. -/
def put (key : String) (value : Toml) : (path : List String) → Entries → Option Entries
  | [], entries => putHere key value entries
  | step :: path, entries =>
    match Keyed.get? step entries, path with
    | none, _ =>
      (put key value path []).map fun inner => Keyed.insert step (.table .dotted inner) entries
    | some (.table .dotted inner), _ =>
      (put key value path inner).map fun inner => Keyed.insert step (.table .dotted inner) entries
    | some (.table .onTheWay inner), _ :: _ =>
      (put key value path inner).map fun inner =>
        Keyed.insert step (.table .onTheWay inner) entries
    | some (.tables (last :: others)), _ :: _ =>
      (put key value path last).map fun last =>
        Keyed.insert step (.tables (last :: others)) entries
    | some _, _ => none

mutual

/-- A value as JSON. A double that is not finite is `null`. -/
def toJson : Toml → Json
  | string s => .string s
  | integer i => .integer i
  | float x => if x.isFinite then .float x else .null
  | bool b => .bool b
  | date text => .string text
  | array items => .array (itemsToJson items)
  | table _ entries => .object (entriesToJson entries)
  | tables elements => .array (elementsToJson elements).reverse

/-- The items of an array as JSON. -/
def itemsToJson : List Toml → List Json
  | [] => []
  | v :: rest => toJson v :: itemsToJson rest

/-- The entries of a table as JSON. -/
def entriesToJson : List (String × Toml) → List (String × Json)
  | [] => []
  | (key, v) :: rest => (key, toJson v) :: entriesToJson rest

/-- The tables of an array as JSON. -/
def elementsToJson : List (List (String × Toml)) → List Json
  | [] => []
  | entries :: rest => .object (entriesToJson entries) :: elementsToJson rest

end

end Toml

end Liquid
