/-!
# Searching text

Plain substring search over lists of characters: matches are found from the left and do not
overlap.

- `after?`: what follows a given beginning.
- `cutAt?`: the text before the first occurrence of a pattern, and the text behind it.
- `splitOn`, `replaceAll`, `replaceFirst`, `occursIn`: the usual operations, by way of `cutAt?`.

`cutAt?_eq_some` says what a cut is: the two parts with the pattern between them.
-/

namespace Liquid.Text

/-- What follows the beginning `start` of `s`, if `s` begins so. -/
def after? : (start s : List Char) → Option (List Char)
  | [], s => some s
  | _ :: _, [] => none
  | a :: start, c :: s => if a = c then after? start s else none

/-- The text in front of the first occurrence of `pat`, and the text behind it. -/
def cutAt? (pat : List Char) : List Char → Option (List Char × List Char)
  | [] => (after? pat []).map fun rest => ([], rest)
  | c :: s =>
    match after? pat (c :: s) with
    | some rest => some ([], rest)
    | none => (cutAt? pat s).map fun cut => (c :: cut.1, cut.2)

theorem after?_eq_some {start s rest : List Char} :
    after? start s = some rest ↔ s = start ++ rest := by
  induction start generalizing s with
  | nil => simp [after?, eq_comm]
  | cons a start ih =>
    cases s with
    | nil => simp [after?]
    | cons c s =>
      by_cases h : a = c
      · simp [after?, h, ih]
      · simp [after?, h, eq_comm]

/-- A cut gives the text back when the pattern is put between its two parts. -/
theorem cutAt?_eq_some {pat s : List Char} {cut : List Char × List Char}
    (h : cutAt? pat s = some cut) : s = cut.1 ++ pat ++ cut.2 := by
  induction s generalizing cut with
  | nil =>
    obtain ⟨rest, hr, rfl⟩ := Option.map_eq_some_iff.1 h
    simpa using after?_eq_some.1 hr
  | cons c s ih =>
    simp only [cutAt?] at h
    split at h
    · next rest hr => cases h; simpa using after?_eq_some.1 hr
    · obtain ⟨cut', hc, rfl⟩ := Option.map_eq_some_iff.1 h
      simpa using ih hc

/-- Behind an occurrence of a pattern of at least one character less text is left. -/
theorem length_of_cutAt? {pat s : List Char} {cut : List Char × List Char}
    (hp : pat ≠ []) (h : cutAt? pat s = some cut) : cut.2.length < s.length := by
  have hs := congrArg List.length (cutAt?_eq_some h)
  have : 0 < pat.length := List.length_pos_iff.2 hp
  simp only [List.length_append] at hs
  omega

/-- Whether `pat` occurs in `s`. -/
def occursIn (pat s : List Char) : Bool := (cutAt? pat s).isSome

/-- The pieces of `s` between the occurrences of `pat`; `s` itself for an empty pattern. -/
def splitOn (pat s : List Char) : List (List Char) :=
  match _hp : pat with
  | [] => [s]
  | p :: ps =>
    match _h : cutAt? (p :: ps) s with
    | none => [s]
    | some cut => cut.1 :: splitOn (p :: ps) cut.2
termination_by s.length
decreasing_by exact length_of_cutAt? (by simp) _h

/-- Puts `new` in the place of every occurrence of `old`. An empty `old` occurs in front of every
character and at the end. -/
def replaceAll (old new s : List Char) : List Char :=
  if old.isEmpty then new ++ s.flatMap fun c => c :: new
  else List.intercalate new (splitOn old s)

/-- Puts `new` in the place of the first occurrence of `old`. -/
def replaceFirst (old new s : List Char) : List Char :=
  match cutAt? old s with
  | some cut => cut.1 ++ new ++ cut.2
  | none => s

end Liquid.Text
