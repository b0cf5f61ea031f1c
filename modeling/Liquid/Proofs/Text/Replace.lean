import Liquid.Proofs.Text.Split

/-!
# Replacing

`replaceAll` described as a scan from the left, which is how it meets a text that is put together
from pieces.

- `replaceAll_append_self`: an occurrence in front is replaced.
- `replaceAll_cons`: where none begins, a character is passed over.
-/

namespace Liquid.Text

variable {pat : List Char}

theorem splitOn_ne_nil (hp : pat ≠ []) (s : List Char) : splitOn pat s ≠ [] := by
  cases hcut : cutAt? pat s with
  | none =>
    rw [splitOn_of_cutAt?_none hp hcut]
    exact List.cons_ne_nil _ _
  | some cut =>
    rw [splitOn_of_cutAt? hp hcut]
    exact List.cons_ne_nil _ _

theorem replaceAll_eq (hp : pat ≠ []) (new s : List Char) :
    replaceAll pat new s = new.intercalate (splitOn pat s) :=
  if_neg (by rwa [List.isEmpty_iff])

/-- The text up to a cut stays, and the pattern is replaced. -/
theorem replaceAll_of_cutAt? (hp : pat ≠ []) (new : List Char) {s : List Char}
    {cut : List Char × List Char} (h : cutAt? pat s = some cut) :
    replaceAll pat new s = cut.1 ++ new ++ replaceAll pat new cut.2 := by
  rw [replaceAll_eq hp, replaceAll_eq hp, splitOn_of_cutAt? hp h,
    List.intercalate_cons_of_ne_nil (splitOn_ne_nil hp cut.2), List.append_assoc]

theorem replaceAll_of_cutAt?_none (hp : pat ≠ []) (new : List Char) {s : List Char}
    (h : cutAt? pat s = none) : replaceAll pat new s = s := by
  rw [replaceAll_eq hp, splitOn_of_cutAt?_none hp h, List.intercalate_singleton]

theorem replaceAll_nil (hp : pat ≠ []) (new : List Char) : replaceAll pat new [] = [] :=
  replaceAll_of_cutAt?_none hp new (cutAt?_eq_none_iff.2 fun h => hp (List.infix_nil.1 h))

/-- An occurrence in front is replaced. -/
theorem replaceAll_append_self (hp : pat ≠ []) (new s : List Char) :
    replaceAll pat new (pat ++ s) = new ++ replaceAll pat new s := by
  have hcut : cutAt? pat (pat ++ s) = some ([], s) :=
    (cutAt?_eq_some_iff hp).2 ⟨rfl, not_infix_dropLast hp⟩
  rw [replaceAll_of_cutAt? hp new hcut, List.nil_append]

/-- Where no occurrence begins, a character is passed over. -/
theorem replaceAll_cons (hp : pat ≠ []) (new : List Char) {c : Char} {s : List Char}
    (h : ¬pat <+: c :: s) : replaceAll pat new (c :: s) = c :: replaceAll pat new s := by
  have hcons : cutAt? pat (c :: s) = (cutAt? pat s).map fun cut => (c :: cut.1, cut.2) := by
    rw [cutAt?, after?_eq_none.2 h]
  cases hcut : cutAt? pat s with
  | none =>
    rw [hcut] at hcons
    rw [replaceAll_of_cutAt?_none hp new hcons, replaceAll_of_cutAt?_none hp new hcut]
  | some cut =>
    rw [hcut] at hcons
    rw [replaceAll_of_cutAt? hp new hcons, replaceAll_of_cutAt? hp new hcut]
    rfl

end Liquid.Text
