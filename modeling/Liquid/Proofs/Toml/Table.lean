import Liquid.Proofs.Json.Object
import Liquid.Toml.Reader

/-!
# Tables of documents

A document is a table with its entries in key order: each line of it changes the table by insertions
only. `Toml.ordered_of_parse` says so of the JSON object that stands for the document.
-/

namespace Liquid.Toml

open Keyed (Ordered)

/-- The change leaves entries in key order. -/
def KeepsOrder (change : Entries → Option Entries) : Prop :=
  ∀ entries entries', Ordered entries → change entries = some entries' → Ordered entries'

theorem keepsOrder_openTable (key : String) : KeepsOrder (openTable key) := by
  intro entries entries' hentries h
  unfold openTable at h
  split at h
  · cases h
    exact Keyed.ordered_insert hentries
  · cases h
    exact Keyed.ordered_insert hentries
  · cases h

theorem keepsOrder_pushTable (key : String) : KeepsOrder (pushTable key) := by
  intro entries entries' hentries h
  unfold pushTable at h
  split at h
  · cases h
    exact Keyed.ordered_insert hentries
  · cases h
    exact Keyed.ordered_insert hentries
  · cases h

/-- Where an inner table is changed, the outer one gets it in an insertion. -/
theorem ordered_of_map_insert {entries entries' : Entries} {key : String} {make : Entries → Toml}
    {inner : Option Entries} (hentries : Ordered entries)
    (h : inner.map (fun inner => Keyed.insert key (make inner) entries) = some entries') :
    Ordered entries' := by
  obtain ⟨inner', -, rfl⟩ := Option.map_eq_some_iff.1 h
  exact Keyed.ordered_insert hentries

theorem keepsOrder_put (key : String) (value : Toml) (path : List String) :
    KeepsOrder (put key value path) := by
  intro entries entries' hentries h
  cases path with
  | nil =>
    rw [put, putHere] at h
    split at h
    · cases h
    · cases h
      exact Keyed.ordered_insert hentries
  | cons step path =>
    rw [put.eq_def] at h
    dsimp only at h
    split at h
    · exact ordered_of_map_insert hentries h
    · exact ordered_of_map_insert hentries h
    · exact ordered_of_map_insert hentries h
    · exact ordered_of_map_insert hentries h
    · cases h

theorem keepsOrder_update {change : Entries → Option Entries} (hchange : KeepsOrder change)
    (path : List String) : KeepsOrder (update change path) := by
  intro entries entries' hentries h
  cases path with
  | nil => exact hchange entries entries' hentries h
  | cons key path =>
    rw [update] at h
    split at h
    · exact ordered_of_map_insert hentries h
    · cases h
    · exact ordered_of_map_insert hentries h
    · exact ordered_of_map_insert hentries h
    · cases h

theorem ordered_of_readDocument {fuel : Nat} {header : List String} {root entries : Entries}
    {s : List Char} (hroot : Ordered root)
    (h : readDocument fuel header root s = some entries) : Ordered entries := by
  induction fuel generalizing header root s with
  | zero => cases h
  | succ fuel ih =>
    rw [readDocument] at h
    split at h
    · cases h
      exact hroot
    · exact ih hroot h
    · exact ih hroot h
    · split at h
      · exact ih hroot h
      · cases h
    · split at h
      · cases h
      · split at h
        · next root' hroot' =>
          exact ih (keepsOrder_update (keepsOrder_pushTable _) _ _ _ hroot hroot') h
        · cases h
    · split at h
      · cases h
      · split at h
        · next root' hroot' =>
          exact ih (keepsOrder_update (keepsOrder_openTable _) _ _ _ hroot hroot') h
        · cases h
    · split at h
      · cases h
      · split at h
        · next root' hroot' =>
          exact ih (keepsOrder_update (keepsOrder_put _ _ _) _ _ _ hroot hroot') h
        · cases h

theorem entriesToJson_eq (entries : Entries) :
    entriesToJson entries = entries.map fun entry => (entry.1, toJson entry.2) := by
  induction entries with
  | nil => rfl
  | cons entry rest ih =>
    obtain ⟨key, value⟩ := entry
    rw [entriesToJson, ih]
    rfl

/-- The object that stands for a document has its members in key order. -/
theorem ordered_of_parse {text : String} {members : Keyed Json}
    (h : (parse? text).map toJson = some (.object members)) : Ordered members := by
  obtain ⟨table, hparse, hjson⟩ := Option.map_eq_some_iff.1 h
  obtain ⟨entries, hread, rfl⟩ := Option.map_eq_some_iff.1 hparse
  rw [toJson, Json.object.injEq, entriesToJson_eq] at hjson
  rw [← hjson]
  have hentries : Ordered entries := ordered_of_readDocument List.Pairwise.nil hread
  exact List.Pairwise.map _ (fun a b hab => hab) hentries

end Liquid.Toml
