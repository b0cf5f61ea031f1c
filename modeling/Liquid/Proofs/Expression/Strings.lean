import Liquid.Condition
import Liquid.Proofs.Expression.Forms

/-!
# Where strings end

A string is told by the first and the last character of its markup, which are the same quote. The
scanners end a quote where its character stands the next time. The two agree on strings that do not
hold their own quote; any other string begins with a quoted run that ends inside of it.

- `Expression.constant?_eq_string_iff`: the constants that are strings.
- `Expression.parse_eq_string_iff`: which markup is read as a string, and what the scanners see in
  it.
- `Condition.parse_joined_strings`: two strings with something in between that are read as one.
-/

namespace Liquid

open Text

namespace Expression

/-- Literals are read from constants only. -/
theorem parse_eq_literal_iff {s : List Char} {v : Value} :
    parse s = .ok (.literal v) ↔ constant? (trim s) = some v := by
  refine ⟨fun h => ?_, parse_of_constant?⟩
  rw [parse_eq] at h
  split at h
  · next value hvalue =>
    cases h
    exact hvalue
  · split at h
    · obtain ⟨first, -, h⟩ := bind_eq_ok_iff.1 h
      obtain ⟨last, -, h⟩ := bind_eq_ok_iff.1 h
      cases h
    · split at h
      · obtain ⟨items, -, h⟩ := map_eq_ok_iff.1 h
        cases h
      · rw [parsePath] at h
        dsimp only at h
        split at h
        · cases h
        · obtain ⟨segments, -, h⟩ := bind_eq_ok_iff.1 h
          cases h

/-- A constant is a string where it stands in quotes. -/
theorem constant?_eq_string_iff {s : List Char} {text : String} :
    constant? s = some (.string text) ↔
      ∃ q, isQuote q = true ∧ s = q :: (text.toList ++ [q]) := by
  constructor
  · intro h
    rw [constant?] at h
    split at h
    · cases h
    · cases h
    · cases h
    · cases h
    · cases h
    · split at h
      · next chars hquoted =>
        cases h
        rw [String.toList_ofList]
        exact quoted?_eq_some_iff.1 hquoted
      · split at h
        · cases h
        · obtain ⟨x, -, hx⟩ := Option.map_eq_some_iff.1 h
          cases hx
  · rintro ⟨q, hq, rfl⟩
    rw [constant?_quoted hq, Value.ofChars, String.ofList_toList]

/-- What is read as a string: a quoted run that every scanner takes as a whole, and nothing else, or
more text behind such a run, up to another quote of its kind at the end. In the second case the
string goes on where the scanners are outside quotes again. -/
theorem parse_eq_string_iff {markup : List Char} {text : String} :
    parse markup = .ok (.literal (.string text)) ↔
      ∃ q a, isQuote q = true ∧ q ∉ a ∧ PassedOver (q :: (a ++ [q]))
        ∧ (trim markup = q :: (a ++ [q]) ∧ text = String.ofList a
          ∨ ∃ b, trim markup = q :: (a ++ [q]) ++ (b ++ [q])
            ∧ text = String.ofList (a ++ q :: b)) := by
  rw [parse_eq_literal_iff, constant?_eq_string_iff]
  constructor
  · rintro ⟨q, hq, htrim⟩
    have htext : text = String.ofList text.toList := String.ofList_toList.symm
    by_cases hmem : q ∈ text.toList
    · -- the run ends at the first quote in the text
      obtain ⟨a, b, hsplit, ha⟩ := List.eq_append_cons_of_mem hmem
      refine ⟨q, a, hq, ha, passedOver_quoted hq ha, .inr ⟨b, ?_, ?_⟩⟩
      · rw [htrim, hsplit]
        simp
      · rw [htext, hsplit]
    · exact ⟨q, text.toList, hq, hmem, passedOver_quoted hq hmem, .inl ⟨htrim, htext⟩⟩
  · rintro ⟨q, a, hq, -, -, ⟨htrim, rfl⟩ | ⟨b, htrim, rfl⟩⟩
    · exact ⟨q, hq, by rw [htrim, String.toList_ofList]⟩
    · exact ⟨q, hq, by rw [htrim, String.toList_ofList]; simp⟩

end Expression

/-- Two strings and an operator between them, without blanks, are one operand: a string that holds
its own quote. -/
theorem Condition.parse_joined_strings :
    Condition.parse "'a'=='b'"
        = .ok (.last ⟨.expression (.literal (.string "a'=='b")), none⟩)
      ∧ '\'' ∈ "a'=='b".toList := by
  refine ⟨?_, by decide⟩
  have hfragments : fragments "'a'=='b'".toList = ["'a'=='b'".toList] := by decide
  have hgroups : groups ["'a'=='b'".toList] = (["'a'=='b'".toList], []) := by decide
  have hoperand : Expression.parse "'a'=='b'".toList = .ok (.literal (.string "a'=='b")) :=
    Expression.parse_eq_literal_iff.2 (Expression.constant?_eq_string_iff.2 ⟨'\'', rfl, by decide⟩)
  have hcomparison : Comparison.parse "'a'=='b'" ["'a'=='b'".toList]
      = .ok ⟨.expression (.literal (.string "a'=='b")), none⟩ := by
    rw [Comparison.parse, Operand.parse, hoperand]
    rfl
  rw [parse, hfragments, hgroups]
  show parseGroups _ ["'a'=='b'".toList] [] = _
  rw [parseGroups, hcomparison]
  rfl

end Liquid
