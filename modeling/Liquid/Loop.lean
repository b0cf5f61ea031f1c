import Liquid.Expression.Evaluate
import Liquid.Markup.Tag
import Liquid.Rendering

/-!
# Loops

What `for` and `tablerow` have in common. (`SPEC_FULL.md`, sections 5.4 and 6.)

- `LoopHeader`: `variable in collection` with options; `LoopHeader.parse` reads one.
- `LoopItems`: what a loop goes over. A range stays a pair of bounds, so that a long range costs
  nothing until it is cut.
- `LoopItems.segment`: the part that offset and limit leave.
- `LoopItems.values`: the items of a part, front to back or back to front.
- `LoopItems.renderEach`: a rendering for each item; `renderEach_eq_each` says that this is one for
  each of the values.
- `LoopItems.metadata`: what a body reads about the iteration it is in.
-/

namespace Liquid

open Text

/-- The value of a loop option. -/
inductive LoopAttribute where
  /-- An expression. -/
  | expression (e : Expression)
  /-- The word `continue` as offset: go on where the loop of the same name stopped. -/
  | resume
  deriving Inhabited

/-- The header of a loop. -/
structure LoopHeader where
  /-- The name that each item is bound to. -/
  itemName : String
  /-- What the loop goes over. -/
  collection : Expression
  /-- The name of the loop, by which its end is remembered: variable and collection as written. -/
  name : String
  /-- The options by name; the last of a name counts. -/
  attributes : Keyed LoopAttribute
  /-- Whether the loop goes back to front. -/
  reversed : Bool
  deriving Inhabited

/-! ### Reading a header -/

/-- The collection in front, and what follows it: text in parentheses, brackets or quotes up to
the first closing one, or a value that is not quoted. -/
def takeCollection? (s : List Char) : Option (List Char × List Char) :=
  let upTo (close : Char) (rest : List Char) : Option (List Char × List Char) :=
    match rest.dropWhile (· != close) with
    | [] => none
    | _ :: behind => some (s.take 1 ++ rest.takeWhile (· != close) ++ [close], behind)
  let bracketed := match s with
    | '(' :: rest => upTo ')' rest
    | '[' :: rest => upTo ']' rest
    | _ => none
  match bracketed with
  | some found => some found
  | none => Markup.takeValue? s

/-- The three parts of a header: variable, collection and options. -/
def splitLoop? (s : List Char) : Option (List Char × List Char × List Char) :=
  let name := (trimStart s).takeWhile isWord
  let behind := (trimStart s).dropWhile isWord
  match behind, trimStart behind with
  | gap :: _, 'i' :: 'n' :: space :: rest =>
    if name.isEmpty || !isBlank gap || !isBlank space then none
    else (takeCollection? (trimStart rest)).map fun found =>
      (name, found.1, trimStart found.2)
  | _, _ => none

/-- Reads a loop option. -/
def LoopAttribute.parse (name value : List Char) : Except Error LoopAttribute :=
  if String.ofList name = "offset" ∧ String.ofList value = "continue" then .ok .resume
  else .expression <$> Expression.parse value

/-- Reads the header of the loop tag `tag`. -/
def LoopHeader.parse (tag markup : String) : Except Error LoopHeader := do
  match splitLoop? markup.toList with
  | none => throw (.markup (.loop tag) markup)
  | some (name, collection, options) =>
    let attributes ← (Markup.attributes options).mapM fun option => do
      return (String.ofList option.1, ← LoopAttribute.parse option.1 option.2)
    return {
      itemName := String.ofList name
      collection := ← Expression.parse collection
      name := String.ofList (name ++ '-' :: collection)
      attributes := Keyed.insertAll [] attributes
      reversed := (words options).any (String.ofList · == "reversed") }

/-! ### Items -/

/-- What a loop goes over. -/
inductive LoopItems where
  /-- The integers from `first` to `last`; none if `first` is the greater. -/
  | range (first last : Int64)
  /-- Values. -/
  | list (items : List Value)
  deriving Inhabited

namespace LoopItems

/-- The greatest number of items that is counted. -/
def maxLength : Nat := UInt64.size - 1

/-- The number of items. -/
def length : LoopItems → Nat
  | range first last => min (last.toInt - first.toInt + 1).toNat maxLength
  | list items => items.length

/-- Leaves at most `limit` items, from position `start` on. -/
def segment (start : Nat) (limit : Option Nat) (items : LoopItems) : LoopItems :=
  let skip := min start items.length
  let count := match limit with
    | some limit => min limit (items.length - skip)
    | none => items.length - skip
  match items with
  | list values => list ((values.drop skip).take count)
  | range first _ =>
    if count = 0 then range 1 0
    else
      let start := first.toInt + skip
      range (Int64.ofInt start) (Int64.ofInt (start + count - 1))

/-- The items in order, or back to front. -/
def values (reversed : Bool) (items : LoopItems) : List Value :=
  let forward := match items with
    | range first last => Expression.integersBetween first last
    | list values => values
  if reversed then forward.reverse else forward

/-- Renders for every item and its position. A range is walked by counting, so that a failure ends
even the longest one at once. -/
def renderEach (reversed : Bool) (f : Value → Nat → Rendering) : LoopItems → Rendering
  | range first last => Rendering.times (last.toInt - first.toInt + 1).toNat fun i =>
    f (.integer (Int64.ofInt (if reversed then last.toInt - i else first.toInt + i))) i
  | list items =>
    Rendering.each (fun item => f item.1 item.2) ((list items).values reversed).zipIdx

/-- What is known of the iteration number `index` of `length`, counted from zero, in the loop
`name`. -/
def metadata (name : String) (index length : Nat) : Keyed Value :=
  [("first", .bool (index == 0)),
   ("index", .ofNat (index + 1)),
   ("index0", .ofNat index),
   ("last", .bool (index + 1 == length)),
   ("length", .ofNat length),
   ("name", .string name),
   ("rindex", .ofNat (length - index)),
   ("rindex0", .ofNat (length - index - 1))]

/-- Item `i` of a range counts from its first integer, or back from its last. -/
theorem values_range (reversed : Bool) (first last : Int64) :
    (range first last).values reversed =
      (List.range (last.toInt - first.toInt + 1).toNat).map fun (i : Nat) =>
        .integer (Int64.ofInt (if reversed then last.toInt - i else first.toInt + i)) := by
  cases reversed with
  | false => rfl
  | true =>
    refine List.ext_getElem (by simp [values, Expression.integersBetween]) fun i _ h => ?_
    rw [List.length_map, List.length_range] at h
    simp only [values, Expression.integersBetween, List.getElem_reverse, List.getElem_map,
      List.getElem_range, List.length_map, List.length_range, if_true]
    congr 2
    omega

theorem zipIdx_map_range {α : Type} (g : Nat → α) (n : Nat) :
    ((List.range n).map g).zipIdx = (List.range n).map fun i => (g i, i) :=
  List.ext_getElem (by simp) fun i _ _ => by simp

/-- Walking a range by counting renders the same as going over its values. -/
theorem renderEach_eq_each (reversed : Bool) (f : Value → Nat → Rendering) (items : LoopItems) :
    items.renderEach reversed f =
      Rendering.each (fun item => f item.1 item.2) (items.values reversed).zipIdx := by
  cases items with
  | list items => rfl
  | range first last =>
    rw [renderEach, Rendering.times_eq_each, values_range, zipIdx_map_range, Rendering.each,
      Rendering.each, Rendering.eachBehind_map]
    rfl

end LoopItems

/-! ### Evaluating a header -/

namespace LoopHeader

/-- What the loop goes over. A dictionary gives pairs of key and value, nil and the empty string
give nothing, and a single value gives itself. -/
def items (header : LoopHeader) (c : Context) : LoopItems :=
  match header.collection.range? c with
  | some (first, last) => .range first last
  | none =>
    match header.collection.evaluate c with
    | .list items => .list items
    | .dict entries => .list (entries.map fun entry => .list [.string entry.1, entry.2])
    | .nil => .list []
    | .string "" => .list []
    | v => .list [v]

/-- The integer value of an option. -/
def integer? (header : LoopHeader) (name : String) (c : Context) : Option Int64 :=
  match Keyed.get? name header.attributes with
  | some (.expression e) => (e.evaluate c).asInteger?
  | _ => none

/-- A position or a count: what is negative or no integer is zero. -/
def count (i : Option Int64) : Nat := ((i.getD 0).toInt).toNat

/-- The register that remembers where loops stopped. -/
def bookmarks : String := "for"

/-- How many items the loop passes over. -/
def offset (header : LoopHeader) (c : Context) : Nat :=
  match Keyed.get? "offset" header.attributes with
  | some .resume => count (c.registerEntry bookmarks header.name).asInteger?
  | _ => count (header.integer? "offset" c)

/-- How many items the loop takes at most, if it says so. -/
def limit? (header : LoopHeader) (c : Context) : Option Nat :=
  if Keyed.contains "limit" header.attributes then some (count (header.integer? "limit" c))
  else none

/-- The number of columns that a table asks for, if it is positive. -/
def columns? (header : LoopHeader) (c : Context) : Option Nat :=
  let n := count (header.integer? "cols" c)
  if n = 0 then none else some n

end LoopHeader

end Liquid
