/-!
# Blank characters

The Unicode `White_Space` property, and what templates do with it.

- `isBlank`: the property itself, all twenty-five characters of it.
- `trimStart`, `trimEnd`, `trim`: cut the blank ends off a text.
- `words`: the maximal runs of characters that are not blank.

All functions work on lists of characters; nothing here counts bytes.
-/

namespace Liquid.Text

/-- The Unicode `White_Space` characters. -/
def isBlank (c : Char) : Bool :=
  let n := c.toNat
  (9 ≤ n && n ≤ 13) || n == 0x20 || n == 0x85 || n == 0xA0 || n == 0x1680
    || (0x2000 ≤ n && n ≤ 0x200A) || n == 0x2028 || n == 0x2029 || n == 0x202F
    || n == 0x205F || n == 0x3000

/-- Drops the blank characters in front. -/
def trimStart (s : List Char) : List Char := s.dropWhile isBlank

/-- Drops the blank characters at the end. -/
def trimEnd (s : List Char) : List Char := (s.reverse.dropWhile isBlank).reverse

/-- Drops the blank characters at both ends. -/
def trim (s : List Char) : List Char := trimEnd (trimStart s)

/-- The maximal runs of characters that are not blank, in order. -/
def words (s : List Char) : List (List Char) :=
  go [] s
where
  /-- Closes the run that `run` holds back to front, if it has any character. -/
  close (run : List Char) : List (List Char) :=
    if run.isEmpty then [] else [run.reverse]
  /-- Reads on with `run`, back to front, as the run begun so far. -/
  go (run : List Char) : List Char → List (List Char)
    | [] => close run
    | c :: rest => if isBlank c then close run ++ go [] rest else go (c :: run) rest

theorem length_dropWhile_le (p : Char → Bool) (s : List Char) :
    (s.dropWhile p).length ≤ s.length := by
  induction s with
  | nil => simp
  | cons c r ih =>
    simp only [List.dropWhile_cons]
    split
    · exact Nat.le_succ_of_le ih
    · exact Nat.le_refl _

/-- Trimming never makes a text longer. -/
theorem length_trim_le (s : List Char) : (trim s).length ≤ s.length := by
  have hs := length_dropWhile_le isBlank s
  have he := length_dropWhile_le isBlank (trimStart s).reverse
  simp only [trim, trimEnd, trimStart, List.length_reverse] at *
  omega

end Liquid.Text
