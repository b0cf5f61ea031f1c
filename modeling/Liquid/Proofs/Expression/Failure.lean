import Liquid.Expression.Parser
import Liquid.Proofs.Except

/-!
# What is wrong with an expression

- `Error.InText`: the errors that are found in the text of a template, and not in what it includes.
- `Expression.parse_failsWith`: reading an expression ends in no other error. The induction is on
  the length of the markup.
-/

namespace Liquid

/-- The error is found in the text of a template. -/
def Error.InText : Error → Prop
  | .markup .. | .unknownTag .. | .unterminatedBlock .. => True
  | _ => False

namespace Expression

open Text

/-- What is wrong with markup of less than a given length is wrong in its text. Reading an
expression and reading the segments of a path call each other on parts of the markup. -/
def ShorterFailsInText (n : Nat) : Prop :=
  ∀ s : List Char, s.length < n →
    (∀ whole, FailsWith Error.InText (parseSegments whole s)) ∧ FailsWith Error.InText (parse s)

section

variable {n : Nat} (ih : ShorterFailsInText n) {s : List Char}

include ih

theorem parseSegments_failsWith_of_shorter (hn : s.length ≤ n) (whole : String) :
    FailsWith Error.InText (parseSegments whole s) := by
  rw [parseSegments.eq_def]
  split
  · exact failsWith_ok _ _
  · next rest =>
    rw [List.length_cons] at hn
    have hshort := length_dropWhile_le isNameChar rest
    simp only
    split
    · exact failsWith_error trivial
    · exact ((ih _ (by omega)).1 whole).bind fun others => failsWith_ok _ _
  · next rest =>
    rw [List.length_cons] at hn
    split
    · next cut hcut =>
      have hshort := length_of_cutBracket? hcut
      refine (ih _ (by omega)).2.bind fun index => ?_
      exact ((ih _ (by omega)).1 whole).bind fun others => failsWith_ok _ _
    · exact failsWith_error trivial
  · exact failsWith_error trivial

theorem parse_failsWith_of_shorter (hn : s.length ≤ n) : FailsWith Error.InText (parse s) := by
  have htrim := length_trim_le s
  rw [parse]
  split
  · exact failsWith_ok _ _
  · split
    · next parts hparts =>
      have hshort := length_of_rangeParts? hparts
      refine (ih _ (by omega)).2.bind fun first => ?_
      exact (ih _ (by omega)).2.bind fun last => failsWith_ok _ _
    · split
      · next pieces hpieces =>
        refine FailsWith.bind (.mapM fun piece _ => ?_) fun items => failsWith_ok _ _
        have hshort := length_of_mem_arrayItems? hpieces piece.2
        exact (ih _ (by omega)).2
      · -- a path with an empty front is as long as its segments
        have hshort := length_dropWhile_le isNameChar (trim s)
        simp only
        split
        · exact failsWith_error trivial
        · exact (parseSegments_failsWith_of_shorter ih (by omega) _).bind
            fun segments => failsWith_ok _ _

end

theorem shorterFailsInText (n : Nat) : ShorterFailsInText n := by
  induction n with
  | zero => exact fun s hs => (Nat.not_lt_zero _ hs).elim
  | succ n ih =>
    intro s hs
    have hn : s.length ≤ n := Nat.le_of_lt_succ hs
    exact ⟨parseSegments_failsWith_of_shorter ih hn, parse_failsWith_of_shorter ih hn⟩

/-- What is wrong with an expression is wrong in its text. -/
theorem parse_failsWith (s : List Char) : FailsWith Error.InText (parse s) :=
  (shorterFailsInText (s.length + 1) s (Nat.lt_succ_self _)).2

end Expression

end Liquid
