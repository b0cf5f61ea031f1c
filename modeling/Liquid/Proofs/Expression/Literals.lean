import Liquid.Proofs.Except
import Liquid.Proofs.Expression.Roots

/-!
# The literals of an expression

A value that is written out in a template is nil, a truth value, a number or a string.

- `Expression.allDropFree_iff`: several expressions are without drops where each of them is.
- `Expression.dropFree_of_parse`: what is read from markup is an expression without drops.
-/

namespace Liquid.Expression

open Text

@[simp] theorem allDropFree_cons {e : Expression} {es : List Expression} :
    AllDropFree (e :: es) ↔ e.DropFree ∧ AllDropFree es :=
  Iff.rfl

/-- Several expressions are without drops where each of them is. -/
theorem allDropFree_iff {es : List Expression} : AllDropFree es ↔ ∀ e ∈ es, e.DropFree := by
  induction es with
  | nil =>
    constructor
    · intro _ e he
      cases he
    · intro _
      trivial
  | cons e es ih => rw [allDropFree_cons, List.forall_mem_cons, ih]

@[simp] theorem allDropFree_append {es es' : List Expression} :
    AllDropFree (es ++ es') ↔ AllDropFree es ∧ AllDropFree es' := by
  rw [allDropFree_iff, allDropFree_iff, allDropFree_iff, List.forall_mem_append]

theorem allDropFree_of_mapM {α : Type} {f : α → Except Error Expression} {xs : List α}
    {es : List Expression} (hf : ∀ x ∈ xs, ∀ e, f x = .ok e → e.DropFree)
    (h : xs.mapM f = .ok es) : AllDropFree es := by
  refine allDropFree_iff.2 fun e he => ?_
  -- every result comes from one of the inputs
  obtain ⟨x, hx, hfx⟩ := exists_of_mem_mapM h he
  exact hf x hx e hfx

theorem dropFree_constant? {s : List Char} {v : Value} (h : constant? s = some v) :
    v.DropFree := by
  rw [constant?] at h
  split at h
  · cases h
    exact .nil
  · cases h
    exact .nil
  · cases h
    exact .nil
  · cases h
    exact .bool true
  · cases h
    exact .bool false
  · split at h
    · cases h
      exact .string _
    · split at h
      · cases h
        exact .integer _
      · obtain ⟨x, -, rfl⟩ := Option.map_eq_some_iff.1 h
        exact .float x

/-- Reading an expression and reading the segments of a path call each other on parts of the markup,
and so the induction is on its length. Of markup of one length, the segments come first. -/
theorem dropFree_of_parse_of_length (n : Nat) :
    (∀ (whole : String) (s : List Char) (segments : List Segment), s.length = n →
      parseSegments whole s = .ok segments → SegmentsDropFree segments)
    ∧ ∀ (s : List Char) (e : Expression), s.length = n → parse s = .ok e → e.DropFree := by
  induction n using Nat.strongRecOn with
  | ind n ih =>
    have hsegments : ∀ (whole : String) (s : List Char) (segments : List Segment), s.length = n →
        parseSegments whole s = .ok segments → SegmentsDropFree segments := by
      intro whole s segments hn h
      rw [parseSegments.eq_def] at h
      split at h
      · cases h
        trivial
      · next rest =>
        rw [List.length_cons] at hn
        simp only at h
        split at h
        · cases h
        · obtain ⟨others, hothers, h⟩ := bind_eq_ok_iff.1 h
          cases h
          have hshort := length_dropWhile_le isNameChar rest
          exact ⟨trivial, (ih _ (by omega)).1 whole _ others rfl hothers⟩
      · next rest =>
        rw [List.length_cons] at hn
        split at h
        · next cut hcut =>
          obtain ⟨index, hindex, h⟩ := bind_eq_ok_iff.1 h
          obtain ⟨others, hothers, h⟩ := bind_eq_ok_iff.1 h
          cases h
          have hshort := length_of_cutBracket? hcut
          exact ⟨(ih _ (by omega)).2 _ index rfl hindex,
            (ih _ (by omega)).1 whole _ others rfl hothers⟩
        · cases h
      · cases h
    refine ⟨hsegments, fun s e hn h => ?_⟩
    have htrim := length_trim_le s
    rw [parse] at h
    split at h
    · next value hvalue =>
      cases h
      exact dropFree_constant? hvalue
    · split at h
      · next parts hparts =>
        obtain ⟨first, hfirst, h⟩ := bind_eq_ok_iff.1 h
        obtain ⟨last, hlast, h⟩ := bind_eq_ok_iff.1 h
        cases h
        have hshort := length_of_rangeParts? hparts
        exact ⟨(ih _ (by omega)).2 _ first rfl hfirst, (ih _ (by omega)).2 _ last rfl hlast⟩
      · split at h
        · next pieces hpieces =>
          obtain ⟨items, hitems, h⟩ := bind_eq_ok_iff.1 h
          cases h
          refine allDropFree_of_mapM (fun piece _ item hitem => ?_) hitems
          have hshort := length_of_mem_arrayItems? hpieces piece.2
          exact (ih _ (by omega)).2 _ item rfl hitem
        · simp only at h
          split at h
          · cases h
          · obtain ⟨segments, hsegs, h⟩ := bind_eq_ok_iff.1 h
            cases h
            have hshort := length_dropWhile_le isNameChar (trim s)
            -- a path with an empty front is as long as its segments
            rcases Nat.lt_or_ge ((trim s).dropWhile isNameChar).length n with hlt | hge
            · exact (ih _ hlt).1 _ _ segments rfl hsegs
            · exact hsegments _ _ segments (by omega) hsegs

theorem dropFree_of_parse {s : List Char} {e : Expression} (h : parse s = .ok e) : e.DropFree :=
  (dropFree_of_parse_of_length s.length).2 s e rfl h

end Liquid.Expression
