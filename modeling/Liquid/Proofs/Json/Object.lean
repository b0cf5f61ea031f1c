import Liquid.Json.Merge
import Liquid.Json.Reader
import Liquid.Proofs.Keyed

/-!
# Members of objects

- `Json.get?_mergeMembers`: what stands under a key when one object is put over another.
- `Json.merge_eq_above`: over anything but an object a value stands alone.
- `Json.ordered_of_parse`: the objects that are read have their members in key order, and so no two
  under one key.
-/

namespace Liquid.Json

open Keyed (Ordered)

/-! ### One object over another -/

/-- Over anything but an object a value stands alone. -/
theorem merge_eq_above {below : Json} (h : ∀ base, below ≠ object base) (above : Json) :
    merge below above = above := by
  cases above with
  | object members =>
    cases below with
    | object base => exact absurd rfl (h base)
    | null | bool | integer | float | string | array => rfl
  | null | bool | integer | float | string | array => rfl

/-- What stands under a key when members are put over others: the member above, over the one below
if there is one; else the one below. -/
theorem get?_mergeMembers {members : Keyed Json} (h : Ordered members) (base : Keyed Json)
    (key : String) :
    Keyed.get? key (mergeMembers base members) =
      match Keyed.get? key members with
      | some j => some (((Keyed.get? key base).map (merge · j)).getD j)
      | none => Keyed.get? key base := by
  induction members generalizing base with
  | nil => rw [mergeMembers]; rfl
  | cons head rest ih =>
    obtain ⟨other, j⟩ := head
    obtain ⟨hhead, hrest⟩ := List.pairwise_cons.1 h
    rw [mergeMembers, ih hrest, Keyed.get?_insert, Keyed.get?]
    by_cases hkey : other = key
    · subst hkey
      have hnone : Keyed.get? other rest = none := Keyed.get?_eq_none_of_lt hhead
      rw [hnone, if_pos rfl, if_pos rfl]
      cases Keyed.get? other base with
      | none => rfl
      | some old => rfl
    · rw [if_neg hkey, if_neg hkey]

/-! ### Objects that are read -/

/-- An object has its members in key order. -/
def ObjectOrdered (j : Json) : Prop := ∀ members, j = object members → Ordered members

theorem objectOrdered_integer (i : Int) : ObjectOrdered (integer i) := by
  rintro members ⟨⟩

theorem objectOrdered_float (x : Float) : ObjectOrdered (float x) := by
  rintro members ⟨⟩

theorem objectOrdered_of_float? {negative : Bool} {significand : Nat} {exponent : Int} {j : Json}
    (h : float? negative significand exponent = some j) : ObjectOrdered j := by
  obtain ⟨x, -, rfl⟩ := Option.map_eq_some_iff.1 h
  exact objectOrdered_float _

theorem objectOrdered_of_readScale {negative : Bool} {significand : Nat} {exponent : Int}
    {s rest : List Char} {j : Json}
    (h : readScale negative significand exponent s = some (j, rest)) : ObjectOrdered j := by
  have hfloat : ∀ {e : Int} {behind : List Char},
      (float? negative significand e).map (·, behind) = some (j, rest) → ObjectOrdered j := by
    intro e behind h
    obtain ⟨j', hj, heq⟩ := Option.map_eq_some_iff.1 h
    cases heq
    exact objectOrdered_of_float? hj
  unfold readScale at h
  split at h
  · exact hfloat h
  · split at h
    · dsimp only at h
      split at h
      · cases h
      · split at h
        · exact hfloat h
        · split at h
          · cases h
          · cases h
            exact objectOrdered_float _
    · exact hfloat h

theorem objectOrdered_of_readNumber {negative : Bool} {s rest : List Char} {j : Json}
    (h : readNumber negative s = some (j, rest)) : ObjectOrdered j := by
  have hfraction : ∀ {significand : Nat} {exponent : Int} {behind : List Char},
      readFraction negative significand exponent behind = some (j, rest) → ObjectOrdered j := by
    intro significand exponent behind h
    unfold readFraction at h
    split at h
    · split at h
      · cases h
      · exact objectOrdered_of_readScale h
    · exact objectOrdered_of_readScale h
  unfold readNumber at h
  dsimp only at h
  split at h
  · cases h
  · split at h
    · exact hfraction h
    · split at h
      · exact hfraction h
      · split at h
        · cases h
          exact objectOrdered_integer _
        · split at h
          · cases h
            exact objectOrdered_float _
          · cases h
            exact objectOrdered_integer _

theorem objectOrdered_of_readMembers {fuel depth : Nat} {read : Keyed Json} {s rest : List Char}
    {j : Json} (hread : Ordered read) (h : readMembers fuel depth read s = some (j, rest)) :
    ObjectOrdered j := by
  induction fuel generalizing read s with
  | zero => cases h
  | succ fuel ih =>
    rw [readMembers] at h
    split at h
    · split at h
      · cases h
      · split at h
        · split at h
          · cases h
          · split at h
            · exact ih (Keyed.ordered_insert hread) h
            · cases h
              rintro members ⟨rfl⟩
              exact Keyed.ordered_insert hread
            · cases h
        · cases h
    · cases h

theorem objectOrdered_of_readElements {fuel depth : Nat} {read : List Json} {s rest : List Char}
    {j : Json} (h : readElements fuel depth read s = some (j, rest)) : ObjectOrdered j := by
  induction fuel generalizing read s with
  | zero => cases h
  | succ fuel ih =>
    rw [readElements] at h
    split at h
    · cases h
    · split at h
      · exact ih h
      · cases h
        rintro members ⟨⟩
      · cases h

theorem objectOrdered_of_readValue {fuel depth : Nat} {s rest : List Char} {j : Json}
    (h : readValue fuel depth s = some (j, rest)) : ObjectOrdered j := by
  cases fuel with
  | zero => cases h
  | succ fuel =>
    rw [readValue] at h
    split at h
    · cases h
      rintro members ⟨⟩
    · cases h
      rintro members ⟨⟩
    · cases h
      rintro members ⟨⟩
    · obtain ⟨r, -, heq⟩ := Option.map_eq_some_iff.1 h
      cases heq
      rintro members ⟨⟩
    · exact objectOrdered_of_readNumber h
    · split at h
      · cases h
      · split at h
        · cases h
          rintro members ⟨⟩
        · exact objectOrdered_of_readElements h
    · split at h
      · cases h
      · split at h
        · cases h
          rintro members ⟨rfl⟩
          exact List.Pairwise.nil
        · exact objectOrdered_of_readMembers List.Pairwise.nil h
    · exact objectOrdered_of_readNumber h

/-- The object of a document has its members in key order. -/
theorem ordered_of_parse {text : String} {members : Keyed Json}
    (h : parse? text = some (.object members)) : Ordered members := by
  unfold parse? at h
  dsimp only at h
  split at h
  · next j rest hvalue =>
    split at h
    · cases h
      exact objectOrdered_of_readValue hvalue members rfl
    · cases h
  · cases h

end Liquid.Json
