import Liquid.Filter.Basic
import Liquid.Sort
import Liquid.Value.Compare

/-!
# Filters on lists

A value that is no list takes part as the list of itself, and nil as the empty list.

- `Value.items`: the list a value takes part as.
- `Value.sortBy?`: a stable sort, in which nil comes last and values without an order between them
  keep their places. Numbers and texts have none, so a long list of both can be without a result.
- `Value.distinct`: the first of each group of equal values.
- `sliceBounds?`: the range of indices that a start and a length select.
- `Filter.onLists`: the filters, by name.
-/

namespace Liquid

namespace Value

/-- The list a value takes part as. -/
def items : Value → List Value
  | list items => items
  | nil => []
  | v => [v]

/-- The value of a property; only dictionaries have any. -/
def property (name : String) : Value → Value
  | dict entries => (Keyed.get? name entries).getD nil
  | _ => nil

/-- Whether a value must come in front of another. Nil comes last. -/
def comesBefore (a b : Value) : Bool :=
  match a.isNil, b.isNil with
  | true, _ => false
  | false, true => true
  | false, false => order? a b == some .lt

/-- The values in the order of their keys. -/
def sortBy? (key : Value → Value) (vs : List Value) : Option (List Value) :=
  Sort.sort? (fun v w => comesBefore (key v) (key w)) vs

/-- The values that equal none in front of them. -/
def distinct (vs : List Value) : List Value :=
  (vs.foldl (fun seen v => if seen.any (same · v) then seen else v :: seen) []).reverse

/-- Sorting neither loses nor adds a value. -/
theorem perm_of_sortBy? {key : Value → Value} {vs sorted : List Value}
    (h : sortBy? key vs = some sorted) : sorted.Perm vs :=
  Sort.perm_of_sort? _ h

end Value

/-- The start and the number of the items that `start` and `count` select from `length` items. A
negative start counts from the end. -/
def sliceBounds? (length : Nat) (start count : Int) : Option (Nat × Nat) :=
  let first := if start < 0 then length + start else start
  if first < 0 ∨ (length : Int) ≤ first ∨ count ≤ 0 then none
  else some (first.toNat, (min count (length - first)).toNat)

/-- The items that a start and a number select. -/
def slice {α : Type} (items : List α) (start count : Int) : List α :=
  match sliceBounds? items.length start count with
  | some (first, n) => (items.drop first).take n
  | none => []

namespace Filter

/-- The texts of the items with the argument, or a space, between them. What is no list stays. -/
def join : Filter := fun value arguments =>
  match value with
  | .list items =>
    .ok (.ofChars (List.intercalate (textArgumentOr " " arguments 0) (items.map Value.toChars)))
  | v => .ok v

/-- Sorts by the property that a string argument names, or else by the items themselves. -/
def sort : Filter := fun value arguments =>
  let key := match arguments with
    | .string name :: _ => Value.property name
    | _ => id
  match Value.sortBy? key value.items with
  | some sorted => .ok (.list sorted)
  | none => .error .contradictoryOrder

/-- The property that the argument names of every item. -/
def map : Filter := fun value arguments =>
  .ok (.list (value.items.map (Value.property (String.ofList (textArgument arguments 0)))))

/-- Some items of a list, or else some characters of the text: from the first argument on, as many
as the second says, or one. -/
def slice : Filter := fun value arguments =>
  let start := ((integerArgument? arguments 0).getD 0).toInt
  let count := ((integerArgument? arguments 1).getD 1).toInt
  match value with
  | .nil => .ok .nil
  | .list items => .ok (.list (Liquid.slice items start count))
  | v => .ok (.ofChars (Liquid.slice v.toChars start count))

/-- The filters on lists. -/
def onLists : List (String × Filter) :=
  [("size", ofValue fun v => .ofNat (v.length?.getD 0)),
   ("join", join),
   ("sort", sort),
   ("reverse", ofValue fun v => .list v.items.reverse),
   ("map", map),
   ("first", ofValue fun v => (v.asList?.bind List.head?).getD .nil),
   ("last", ofValue fun v => (v.asList?.bind List.getLast?).getD .nil),
   ("uniq", ofValue fun v => .list (Value.distinct v.items)),
   ("compact", ofValue fun v => .list (v.items.filter fun item => !item.isNil)),
   ("slice", slice)]

end Filter

end Liquid
