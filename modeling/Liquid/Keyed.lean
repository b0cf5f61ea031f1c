/-!
# Entries in key order

A `Keyed α` is a list of entries with strictly ascending keys, so that two of them with the same
entries are equal. Keys are ordered by code point.

- `Keyed.insert`: puts a value under a key, in place of the one that stood there.
- `Keyed.get?`, `Keyed.contains`, `Keyed.keys`: reading.
- `Keyed.mapValues`: other values under the same keys.
- `Keyed.Ordered`: the keys ascend strictly. `Keyed.ordered_insert` says that insertion keeps it.
- `Keyed.get?_insert`: an insertion is read back under its key and changes nothing else.
-/

namespace Liquid

/-- A list of entries, meant to be in strictly ascending key order. -/
abbrev Keyed (α : Type) := List (String × α)

namespace Keyed

variable {α : Type}

/-- The value under a key. -/
def get? (key : String) : Keyed α → Option α
  | [] => none
  | entry :: rest => if entry.1 = key then some entry.2 else get? key rest

/-- Whether there is a value under a key. -/
def contains (key : String) (m : Keyed α) : Bool := (get? key m).isSome

/-- The keys, in their order. -/
def keys (m : Keyed α) : List String := m.map Prod.fst

/-- Puts a value under a key. -/
def insert (key : String) (value : α) : Keyed α → Keyed α
  | [] => [(key, value)]
  | entry :: rest =>
    if key < entry.1 then (key, value) :: entry :: rest
    else if entry.1 = key then (key, value) :: rest
    else entry :: insert key value rest

/-- Inserts all entries of `entries`, in order; the last value of a key stays. -/
def insertAll (m : Keyed α) (entries : List (String × α)) : Keyed α :=
  entries.foldl (fun m entry => insert entry.1 entry.2 m) m

/-- Applies a function to every value. -/
def mapValues {β : Type} (f : α → β) (m : Keyed α) : Keyed β :=
  m.map fun entry => (entry.1, f entry.2)

/-- The keys ascend strictly. -/
def Ordered (m : Keyed α) : Prop := m.Pairwise fun a b => a.1 < b.1

@[simp] theorem get?_nil (key : String) : get? key ([] : Keyed α) = none := rfl

/-- An insertion is read back under its key and changes nothing else. -/
theorem get?_insert (key other : String) (value : α) (m : Keyed α) :
    get? other (insert key value m) = if key = other then some value else get? other m := by
  induction m with
  | nil => simp [insert, get?]
  | cons entry rest ih =>
    simp only [insert]
    split
    · simp [get?]
    · split
      · next h => by_cases hk : key = other <;> simp [get?, h, hk]
      · next h =>
        simp only [get?, ih]
        by_cases ho : entry.1 = other
        · have : key ≠ other := fun hk => h (ho.trans hk.symm)
          simp [ho, this]
        · simp [ho]

theorem get?_mapValues {β : Type} (f : α → β) (key : String) (m : Keyed α) :
    get? key (mapValues f m) = (get? key m).map f := by
  induction m with
  | nil => rfl
  | cons entry rest ih =>
    show get? key ((entry.1, f entry.2) :: mapValues f rest) = _
    rw [get?, get?, ih]
    by_cases h : entry.1 = key
    · rw [if_pos h, if_pos h, Option.map_some]
    · rw [if_neg h, if_neg h]

theorem mapValues_insert {β : Type} (f : α → β) (key : String) (value : α) (m : Keyed α) :
    mapValues f (insert key value m) = insert key (f value) (mapValues f m) := by
  induction m with
  | nil => rfl
  | cons entry rest ih =>
    show _ = insert key (f value) ((entry.1, f entry.2) :: mapValues f rest)
    rw [insert, insert]
    by_cases hlt : key < entry.1
    · rw [if_pos hlt, if_pos hlt]
      rfl
    · rw [if_neg hlt, if_neg hlt]
      by_cases heq : entry.1 = key
      · rw [if_pos heq, if_pos heq]
        rfl
      · rw [if_neg heq, if_neg heq, ← ih]
        rfl

theorem mem_insert {key : String} {value : α} {m : Keyed α} {entry : String × α}
    (h : entry ∈ insert key value m) : entry = (key, value) ∨ entry ∈ m := by
  induction m with
  | nil => simp_all [insert]
  | cons head rest ih =>
    simp only [insert] at h
    split at h
    · simpa using h
    · split at h
      · rcases List.mem_cons.1 h with h | h
        · exact .inl h
        · exact .inr (by simp [h])
      · rcases List.mem_cons.1 h with h | h
        · exact .inr (by simp [h])
        · rcases ih h with h | h
          · exact .inl h
          · exact .inr (by simp [h])

/-- Insertion keeps the key order. -/
theorem ordered_insert {key : String} {value : α} {m : Keyed α} (h : Ordered m) :
    Ordered (insert key value m) := by
  induction m with
  | nil => simp [insert, Ordered]
  | cons head rest ih =>
    have hr := List.pairwise_cons.1 h
    simp only [insert]
    split
    · next hlt =>
      refine List.pairwise_cons.2 ⟨fun e he => ?_, h⟩
      rcases List.mem_cons.1 he with rfl | he
      · exact hlt
      · exact String.lt_trans hlt (hr.1 e he)
    · next hlt =>
      split
      · next heq =>
        exact List.pairwise_cons.2 ⟨fun e he => heq ▸ hr.1 e he, hr.2⟩
      · next hne =>
        refine List.pairwise_cons.2 ⟨fun e he => ?_, ih hr.2⟩
        rcases mem_insert he with rfl | he
        · show head.1 < key
          by_cases hgt : head.1 < key
          · exact hgt
          · exact absurd (String.le_antisymm (String.not_lt.1 hlt) (String.not_lt.1 hgt)) hne
        · exact hr.1 e he

end Keyed

end Liquid
