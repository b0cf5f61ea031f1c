import Liquid.Proofs.Decimal.Digits
import Liquid.Proofs.Decimal.Integers
import Liquid.Proofs.Value.DropFree
import Liquid.Value.Json

/-!
# Values through JSON

Data of the host comes as JSON, and a dictionary is printed as JSON. The two ways undo each other on
what both sides can hold: no integer becomes a double on the way, and no double an integer, not even
one without a fraction.

- `Value.Finite`, `Json.Fits`: the values that JSON can hold, apart from drops, and the JSON that
  values can hold.
- `Value.ofJson_toJson`, `Value.toJson_ofJson`: each of them comes back as it was.
- `Value.json_keeps_data`: both ways, and that nothing leads out of the two.
-/

namespace Liquid

/-- Every double in the value is finite. Drops are not looked into. -/
inductive Value.Finite : Value → Prop where
  | nil : Finite .nil
  | bool (b : Bool) : Finite (.bool b)
  | integer (i : Int64) : Finite (.integer i)
  | float {x : Float} (h : x.isFinite = true) : Finite (.float x)
  | string (s : String) : Finite (.string s)
  | list {items : List Value} (h : ∀ v ∈ items, Finite v) : Finite (.list items)
  | dict {entries : List (String × Value)} (h : ∀ entry ∈ entries, Finite entry.2) :
    Finite (.dict entries)
  | drop (d : Drop) : Finite (.drop d)

/-- Every integer in the document fits in 64 bits; the doubles are finite, as those of a document
are. -/
inductive Json.Fits : Json → Prop where
  | null : Fits .null
  | bool (b : Bool) : Fits (.bool b)
  | integer {i : Int} (h : -2 ^ 63 ≤ i ∧ i < 2 ^ 63) : Fits (.integer i)
  | float {x : Float} (h : x.isFinite = true) : Fits (.float x)
  | string (s : String) : Fits (.string s)
  | array {elements : List Json} (h : ∀ j ∈ elements, Fits j) : Fits (.array elements)
  | object {members : List (String × Json)} (h : ∀ member ∈ members, Fits member.2) :
    Fits (.object members)

namespace Value

/-! ### Lists and dictionaries, item by item -/

theorem map_eq_self {α : Type} {f : α → α} {l : List α} (h : ∀ x ∈ l, f x = x) : l.map f = l := by
  rw [List.map_congr_left (g := id) h, List.map_id]

theorem itemsToJson_eq (items : List Value) : itemsToJson items = items.map toJson := by
  induction items with
  | nil => rfl
  | cons v rest ih => rw [itemsToJson, ih, List.map_cons]

theorem entriesToJson_eq (entries : List (String × Value)) :
    entriesToJson entries = entries.map fun entry => (entry.1, entry.2.toJson) := by
  induction entries with
  | nil => rfl
  | cons entry rest ih => rw [entriesToJson, ih, List.map_cons]

theorem ofElements_eq (elements : List Json) : ofElements elements = elements.map ofJson := by
  induction elements with
  | nil => rfl
  | cons j rest ih => rw [ofElements, ih, List.map_cons]

theorem ofMembers_eq (members : List (String × Json)) :
    ofMembers members = members.map fun member => (member.1, ofJson member.2) := by
  induction members with
  | nil => rfl
  | cons member rest ih => rw [ofMembers, ih, List.map_cons]

/-! ### Numbers -/

theorem toJson_float {x : Float} (h : x.isFinite = true) : (float x).toJson = .float x := by
  rw [toJson, if_pos h]

theorem ofJson_integer {n : Int} {i : Int64} (h : Decimal.int64? n = some i) :
    ofJson (.integer n) = integer i := by
  rw [ofJson, h]

/-! ### There and back -/

/-- A value comes back from JSON as it was. -/
theorem ofJson_toJson {v : Value} (hfree : v.DropFree) (hfinite : v.Finite) :
    ofJson v.toJson = v := by
  induction hfree with
  | nil => rfl
  | bool b => rfl
  | integer i => rw [toJson, ofJson_integer (Decimal.int64?_toInt i)]
  | float x =>
    cases hfinite with
    | float hx => rw [toJson_float hx, ofJson]
  | string s => rfl
  | list _ ih =>
    cases hfinite with
    | list hitems =>
      rw [toJson, ofJson, itemsToJson_eq, ofElements_eq, List.map_map]
      exact congrArg list (map_eq_self fun v hv => ih v hv (hitems v hv))
  | dict _ ih =>
    cases hfinite with
    | dict hentries =>
      rw [toJson, ofJson, entriesToJson_eq, ofMembers_eq, List.map_map]
      refine congrArg dict (map_eq_self fun entry hentry => ?_)
      exact congrArg (Prod.mk entry.1) (ih entry hentry (hentries entry hentry))

/-- JSON comes back from a value as it was. -/
theorem toJson_ofJson {j : Json} (h : j.Fits) : (ofJson j).toJson = j := by
  induction h with
  | null => rfl
  | bool b => rfl
  | integer hfits =>
    obtain ⟨i, hi, rfl⟩ := Decimal.int64?_eq_some hfits
    rw [ofJson_integer hi, toJson]
  | float hx => rw [ofJson, toJson_float hx]
  | string s => rfl
  | array _ ih =>
    rw [ofJson, toJson, ofElements_eq, itemsToJson_eq, List.map_map]
    exact congrArg Json.array (map_eq_self ih)
  | object _ ih =>
    rw [ofJson, toJson, ofMembers_eq, entriesToJson_eq, List.map_map]
    refine congrArg Json.object (map_eq_self fun member hmember => ?_)
    exact congrArg (Prod.mk member.1) (ih member hmember)

/-! ### Nothing leads out -/

theorem fits_toJson {v : Value} (hfree : v.DropFree) (hfinite : v.Finite) : v.toJson.Fits := by
  induction hfree with
  | nil => exact .null
  | bool b => exact .bool b
  | integer i => exact .integer ⟨Int64.le_toInt i, Int64.toInt_lt i⟩
  | float x =>
    cases hfinite with
    | float hx =>
      rw [toJson_float hx]
      exact .float hx
  | string s => exact .string s
  | list _ ih =>
    cases hfinite with
    | list hitems =>
      rw [toJson, itemsToJson_eq]
      exact .array (List.forall_mem_map.2 fun v hv => ih v hv (hitems v hv))
  | dict _ ih =>
    cases hfinite with
    | dict hentries =>
      rw [toJson, entriesToJson_eq]
      exact .object (List.forall_mem_map.2 fun entry hentry =>
        ih entry hentry (hentries entry hentry))

theorem ofJson_storable {j : Json} (h : j.Fits) : (ofJson j).DropFree ∧ (ofJson j).Finite := by
  induction h with
  | null => exact ⟨.nil, .nil⟩
  | bool b => exact ⟨.bool b, .bool b⟩
  | integer hfits =>
    obtain ⟨i, hi, -⟩ := Decimal.int64?_eq_some hfits
    rw [ofJson_integer hi]
    exact ⟨.integer i, .integer i⟩
  | @float x hx => exact ⟨.float x, .float hx⟩
  | string s => exact ⟨.string s, .string s⟩
  | array _ ih =>
    rw [ofJson, ofElements_eq]
    exact ⟨.list (List.forall_mem_map.2 fun j hj => (ih j hj).1),
      .list (List.forall_mem_map.2 fun j hj => (ih j hj).2)⟩
  | object _ ih =>
    rw [ofJson, ofMembers_eq]
    exact ⟨.dict (List.forall_mem_map.2 fun member hmember => (ih member hmember).1),
      .dict (List.forall_mem_map.2 fun member hmember => (ih member hmember).2)⟩

/-- The values without drops and with finite doubles only, and the documents whose integers fit in
64 bits, are the same data: each way leads from one to the other, and the other way leads back. -/
theorem json_keeps_data :
    (∀ v : Value, v.DropFree → v.Finite → v.toJson.Fits ∧ ofJson v.toJson = v) ∧
    ∀ j : Json, j.Fits → ((ofJson j).DropFree ∧ (ofJson j).Finite) ∧ (ofJson j).toJson = j :=
  ⟨fun _ hfree hfinite => ⟨fits_toJson hfree hfinite, ofJson_toJson hfree hfinite⟩,
    fun _ hfits => ⟨ofJson_storable hfits, toJson_ofJson hfits⟩⟩

/-- An integer and the double of the same value, in one list, and the least integer in an object. -/
theorem json_keeps_data_three :
    (list [integer 3, float 3]).DropFree ∧ (list [integer 3, float 3]).Finite ∧
      ofJson (list [integer 3, float 3]).toJson = list [integer 3, float 3] ∧
      (Json.object [("n", .integer (-2 ^ 63))]).Fits ∧
      (ofJson (.object [("n", .integer (-2 ^ 63))])).toJson =
        .object [("n", .integer (-2 ^ 63))] := by
  have hfree : (list [integer 3, float 3]).DropFree := by
    refine .list (List.forall_mem_cons.2 ⟨.integer 3, List.forall_mem_cons.2 ⟨.float 3, nofun⟩⟩)
  have hthree : (3 : Float).isFinite = true := by decide
  have hfinite : (list [integer 3, float 3]).Finite :=
    .list (List.forall_mem_cons.2 ⟨.integer 3, List.forall_mem_cons.2 ⟨.float hthree, nofun⟩⟩)
  have hfits : (Json.object [("n", .integer (-2 ^ 63))]).Fits :=
    .object (List.forall_mem_cons.2 ⟨.integer (by decide), nofun⟩)
  exact ⟨hfree, hfinite, (json_keeps_data.1 _ hfree hfinite).2, hfits,
    (json_keeps_data.2 _ hfits).2⟩

end Value

end Liquid
