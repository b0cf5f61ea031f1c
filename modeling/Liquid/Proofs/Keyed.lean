import Liquid.Keyed

/-!
# Entries under keys

Which entries a lookup finds and an insertion leaves.

- `Keyed.mem_of_get?`: what stands under a key is one of the entries.
- `Keyed.get?_eq_none_of_lt`: nothing is found in front of the first entry.
- `Keyed.mem_insertAll`: insertion adds the inserted entries only.
- `Keyed.get?_insert_of_some`, `Keyed.get?_insertAll_of_some`: under further keys it
  changes nothing.
- `Keyed.get?_insertAll`: of the inserted entries the last one of a key is found, and every one of
  them where no two have the same key (`Keyed.get?_insertAll_of_mem`).
-/

namespace Liquid.Keyed

/-- What stands under a key is one of the entries. -/
theorem mem_of_get? {α : Type} {key : String} {value : α} {m : Keyed α}
    (h : get? key m = some value) : (key, value) ∈ m := by
  induction m with
  | nil => cases h
  | cons entry rest ih =>
    rw [get?] at h
    by_cases hkey : entry.1 = key
    · rw [if_pos hkey] at h
      cases h
      subst hkey
      exact List.mem_cons_self
    · rw [if_neg hkey] at h
      exact List.mem_cons_of_mem entry (ih h)

/-- A key that comes before all others has nothing under it. -/
theorem get?_eq_none_of_lt {α : Type} {key : String} {m : Keyed α}
    (h : ∀ entry ∈ m, key < entry.1) : get? key m = none := by
  cases hget : get? key m with
  | none => rfl
  | some value => exact absurd (h _ (mem_of_get? hget)) (String.lt_irrefl key)

theorem mem_insertAll {α : Type} {entries : List (String × α)} {m : Keyed α}
    {entry : String × α} (h : entry ∈ insertAll m entries) : entry ∈ m ∨ entry ∈ entries := by
  induction entries generalizing m with
  | nil => exact .inl h
  | cons head rest ih =>
    rcases ih h with hm | hrest
    · rcases mem_insert hm with rfl | hm
      · exact .inr List.mem_cons_self
      · exact .inl hm
    · exact .inr (List.mem_cons_of_mem head hrest)

/-- Under a further key, an insertion changes nothing of what is there. -/
theorem get?_insert_of_some {α : Type} {key other : String} {value old : α} {m : Keyed α}
    (hkey : key ≠ other) (h : get? other m = some old) :
    get? other (insert key value m) = some old := by
  rw [get?_insert, if_neg hkey, h]

theorem get?_insertAll_of_some {α : Type} {entries : List (String × α)} {other : String} {old : α}
    {m : Keyed α} (hkeys : ∀ entry ∈ entries, entry.1 ≠ other) (h : get? other m = some old) :
    get? other (insertAll m entries) = some old := by
  induction entries generalizing m with
  | nil => exact h
  | cons head rest ih =>
    refine ih (fun entry hentry => hkeys entry (List.mem_cons_of_mem head hentry)) ?_
    exact get?_insert_of_some (hkeys head List.mem_cons_self) h

/-- Of the entries that are inserted one after the other, the last one of a key is found. -/
theorem get?_insertAll {α : Type} (entries : List (String × α)) (key : String) (m : Keyed α) :
    get? key (insertAll m entries) = (entries.reverse.lookup key).or (get? key m) := by
  induction entries generalizing m with
  | nil => rfl
  | cons head rest ih =>
    obtain ⟨other, value⟩ := head
    show get? key (insertAll (insert other value m) rest) = _
    rw [ih, get?_insert, List.reverse_cons, List.lookup_append, Option.or_assoc, List.lookup_cons]
    by_cases hkey : other = key
    · rw [if_pos hkey, hkey, beq_self_eq_true, Option.some_or]
    · rw [if_neg hkey, beq_false_of_ne (Ne.symm hkey), List.lookup_nil, Option.none_or]

/-- Of entries that are inserted under different keys, each is found. -/
theorem get?_insertAll_of_mem {α : Type} {entries : List (String × α)}
    (hkeys : (entries.map Prod.fst).Nodup) {key : String} {value : α}
    (h : (key, value) ∈ entries) (m : Keyed α) : get? key (insertAll m entries) = some value := by
  induction entries generalizing m with
  | nil => cases h
  | cons head rest ih =>
    obtain ⟨hhead, hrest⟩ := List.nodup_cons.1 hkeys
    rcases List.mem_cons.1 h with rfl | hmem
    · have hothers : ∀ entry ∈ rest, entry.1 ≠ key := fun entry hentry heq =>
        hhead (List.mem_map.2 ⟨entry, hentry, heq⟩)
      have hget : get? key (insert key value m) = some value := by
        rw [get?_insert, if_pos rfl]
      rw [insertAll, List.foldl_cons]
      exact get?_insertAll_of_some hothers hget
    · exact ih hrest hmem _

end Liquid.Keyed
