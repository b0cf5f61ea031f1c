import Liquid.Text.CharClass

/-!
# HTML

- `Html.escape`: writes the five characters that have a meaning in HTML as entities.
- `Html.escapeOnce`: the same, but entities that stand in the text already are kept.
- `Html.strip`: takes scripts, style sheets and comments out together with their contents, then
  every tag.

The names of elements are read without regard to case, and the long s `ſ` counts as an `s`.
-/

namespace Liquid.Text.Html

/-! ### Entities -/

/-- A character, as an entity if it has a meaning in HTML. -/
def escapeChar (c : Char) : List Char :=
  match c with
  | '&' => "&amp;".toList
  | '<' => "&lt;".toList
  | '>' => "&gt;".toList
  | '"' => "&quot;".toList
  | '\'' => "&#39;".toList
  | c => [c]

/-- The text with entities for the characters that have a meaning in HTML. -/
def escape (s : List Char) : List Char := s.flatMap escapeChar

/-- A hexadecimal digit of either case. -/
def isHexDigit (c : Char) : Bool :=
  isAsciiDigit c || ('a' ≤ c && c ≤ 'f') || ('A' ≤ c && c ≤ 'F')

/-- Takes a run of characters of a class off a text, if there is a semicolon behind it: the run
with the semicolon, and the rest. -/
def takeClosed? (p : Char → Bool) (s : List Char) : Option (List Char × List Char) :=
  match s.takeWhile p, s.dropWhile p with
  | [], _ => none
  | run, ';' :: rest => some (run ++ [';'], rest)
  | _, _ => none

/-- Takes what follows the `&` of an entity off a text: a name, or a number in decimal or
hexadecimal digits. -/
def takeEntity? (s : List Char) : Option (List Char × List Char) :=
  match s with
  | '#' :: 'x' :: rest => (takeClosed? isHexDigit rest).map fun e => ('#' :: 'x' :: e.1, e.2)
  | '#' :: rest => (takeClosed? isDigit rest).map fun e => ('#' :: e.1, e.2)
  | _ => takeClosed? isAsciiLetter s

theorem takeClosed?_eq_some {p : Char → Bool} {s : List Char} {e : List Char × List Char}
    (h : takeClosed? p s = some e) : s = e.1 ++ e.2 := by
  unfold takeClosed? at h
  split at h
  · cases h
  · next hd _ =>
    cases h
    simp only [List.append_assoc, List.singleton_append, ← hd, List.takeWhile_append_dropWhile]
  · cases h

/-- An entity and the rest make up the text. -/
theorem takeEntity?_eq_some {s : List Char} {e : List Char × List Char}
    (h : takeEntity? s = some e) : s = e.1 ++ e.2 := by
  unfold takeEntity? at h
  split at h
  · obtain ⟨e', he, rfl⟩ := Option.map_eq_some_iff.1 h
    simp [takeClosed?_eq_some he]
  · obtain ⟨e', he, rfl⟩ := Option.map_eq_some_iff.1 h
    simp [takeClosed?_eq_some he]
  · exact takeClosed?_eq_some h

/-- The text with entities for the characters that have a meaning in HTML, except for the `&` of
entities that stand there already. -/
def escapeOnce (s : List Char) : List Char :=
  match s with
  | [] => []
  | '&' :: rest =>
    match _h : takeEntity? rest with
    | some (entity, rest') => '&' :: entity ++ escapeOnce rest'
    | none => escapeChar '&' ++ escapeOnce rest
  | c :: rest => escapeChar c ++ escapeOnce rest
termination_by s.length
decreasing_by
  · have := congrArg List.length (takeEntity?_eq_some _h)
    simp only [List.length_append, List.length_cons] at *
    omega
  all_goals simp

/-! ### Tags -/

/-- A character without its case. -/
def foldCase (c : Char) : Char := if c = 'ſ' then 's' else c.toLower

/-- What follows the beginning `start` of a text, if it begins so in some case. -/
def afterFolded? : (start s : List Char) → Option (List Char)
  | [], s => some s
  | _ :: _, [] => none
  | a :: start, c :: s => if a = foldCase c then afterFolded? start s else none

/-- What follows the first occurrence of `pat` in some case. -/
def behindFolded? (pat : List Char) : List Char → Option (List Char)
  | [] => afterFolded? pat []
  | c :: s =>
    match afterFolded? pat (c :: s) with
    | some rest => some rest
    | none => behindFolded? pat s

/-- The blocks that go with their contents: how each begins and how it ends. -/
def blocks : List (List Char × List Char) :=
  [("<script".toList, "</script>".toList),
   ("<!--".toList, "-->".toList),
   ("<style".toList, "</style>".toList)]

/-- What follows the block that a text begins with. -/
def behindBlock? (s : List Char) : Option (List Char) :=
  blocks.findSome? fun block => (afterFolded? block.1 s).bind (behindFolded? block.2)

theorem length_of_afterFolded? {start s rest : List Char} (h : afterFolded? start s = some rest) :
    s.length = start.length + rest.length := by
  induction start generalizing s with
  | nil => cases h; simp
  | cons a start ih =>
    cases s with
    | nil => cases h
    | cons c s =>
      simp only [afterFolded?] at h
      split at h
      · simp only [List.length_cons, ih h]; omega
      · cases h

theorem length_of_behindFolded? {pat s rest : List Char} (h : behindFolded? pat s = some rest) :
    rest.length ≤ s.length := by
  induction s with
  | nil =>
    have := length_of_afterFolded? h
    omega
  | cons c s ih =>
    simp only [behindFolded?] at h
    split at h
    · next hr =>
      have := length_of_afterFolded? hr
      cases h
      omega
    · have := ih h
      simp only [List.length_cons]
      omega

/-- A block is not empty. -/
theorem length_of_behindBlock? {s rest : List Char} (h : behindBlock? s = some rest) :
    rest.length < s.length := by
  obtain ⟨block, hb, h⟩ := List.exists_of_findSome?_eq_some h
  obtain ⟨inner, hi, h⟩ := Option.bind_eq_some_iff.1 h
  have h1 := length_of_afterFolded? hi
  have h2 := length_of_behindFolded? h
  have h3 : 0 < block.1.length := by
    simp only [blocks, List.mem_cons, List.not_mem_nil, or_false] at hb
    rcases hb with rfl | rfl | rfl <;> decide
  omega

/-- The text without scripts, comments and style sheets. What has no end stays. -/
def stripBlocks (s : List Char) : List Char :=
  match s with
  | [] => []
  | c :: rest =>
    match _h : behindBlock? (c :: rest) with
    | some rest' => stripBlocks rest'
    | none => c :: stripBlocks rest
termination_by s.length
decreasing_by
  · exact length_of_behindBlock? _h
  · simp

/-- The text without whatever stands between `<` and the next `>`. What has no `>` stays. -/
def stripTags (s : List Char) : List Char :=
  match s with
  | [] => []
  | '<' :: rest =>
    match _h : rest.dropWhile (· != '>') with
    | _ :: rest' => stripTags rest'
    | [] => '<' :: stripTags rest
  | c :: rest => c :: stripTags rest
termination_by s.length
decreasing_by
  · have := (List.dropWhile_suffix (l := rest) (· != '>')).length_le
    rw [_h] at this
    simp only [List.length_cons] at *
    omega
  all_goals simp

/-- The text without HTML. -/
def strip (s : List Char) : List Char := stripTags (stripBlocks s)

end Liquid.Text.Html
