import Liquid.Proofs.Loop.Options

/-!
# Loop headers as they are written

`variable in collection` with options behind it, and the header that is read from such a text.

- `LoopCollection`, `LoopHeader.Spelling`: spellings.
- `LoopCollection.takeCollection?_text`, `LoopHeader.Spelling.splitLoop?_text`: the parts of a
  header are found.
- `LoopHeader.Spelling.parse_spelling_text`: the header that is read.
- `LoopHeader.parse_options`: what this header says.
-/

namespace Liquid

open Text

/-! ### Collections -/

/-- The collection of a loop as it is written. -/
inductive LoopCollection where
  /-- A path without blanks and commas. -/
  | path (text : List Char) (plain : ∀ c ∈ text, Markup.isPlain c = true)
    (isPath : Expression.IsPath text)
  /-- A range in parentheses. -/
  | range (first last : Expression.Dotted)
  /-- A list in brackets without further brackets. -/
  | array (inner : List Char) (flat : ']' ∉ inner)
    (isArray : ∃ items, Expression.parse ('[' :: (inner ++ [']'])) = .ok (.array items))
  /-- Text in quotes that do not stand in it. -/
  | quoted (quote : Char) (text : List Char) (isQuote : isQuote quote = true)
    (closed : quote ∉ text)

namespace LoopCollection

/-- A collection as it is written. -/
def text : LoopCollection → List Char
  | path text _ _ => text
  | range first last => '(' :: (first.text ++ '.' :: '.' :: last.text ++ [')'])
  | array inner _ _ => '[' :: (inner ++ [']'])
  | quoted quote text _ _ => quote :: (text ++ [quote])

theorem exists_parse (collection : LoopCollection) :
    ∃ e, Expression.parse collection.text = .ok e := by
  cases collection with
  | path s hplain hpath =>
    obtain ⟨root, segments, raw, hparse⟩ := hpath
    exact ⟨_, hparse⟩
  | range first last =>
    obtain ⟨a, ha⟩ := first.exists_parse
    obtain ⟨b, hb⟩ := last.exists_parse
    refine ⟨.range a b, ?_⟩
    rw [text, Expression.parse_range first.ne_nil first.not_isBlank first.not_points last.ne_nil
      last.not_isBlank, ha, hb]
    rfl
  | array inner hflat harray =>
    obtain ⟨items, hparse⟩ := harray
    exact ⟨_, hparse⟩
  | quoted q s hq hs => exact ⟨_, (Expression.Spelling.string q s hq hs).parse_text⟩

/-- No collection begins with a blank. -/
theorem exists_cons (collection : LoopCollection) :
    ∃ c rest, collection.text = c :: rest ∧ isBlank c = false := by
  cases collection with
  | path s hplain hpath =>
    obtain ⟨c, rest, heq, hc⟩ :=
      hpath.exists_cons fun c hc => not_isBlank_of_isPlain (hplain c hc)
    exact ⟨c, rest, heq, Expression.not_isBlank_of_isNameChar hc⟩
  | range first last => exact ⟨'(', _, rfl, rfl⟩
  | array inner hflat harray => exact ⟨'[', _, rfl, rfl⟩
  | quoted q s hq hs => exact ⟨q, s ++ [q], rfl, not_isBlank_of_isQuote hq⟩

theorem takeCollection?_enclosed {opening closing : Char} (h : IsPair opening closing)
    {s : List Char} (hs : closing ∉ s) (t : List Char) :
    takeCollection? (opening :: (s ++ [closing]) ++ t)
      = some (opening :: (s ++ [closing]), t) := by
  have htext : opening :: (s ++ [closing]) ++ t = opening :: (s ++ closing :: t) := by
    rw [List.cons_append, List.append_assoc, List.singleton_append]
  rw [htext]
  rcases h with ⟨rfl, rfl⟩ | ⟨rfl, rfl⟩
  · simp only [takeCollection?, dropWhile_ne hs, takeWhile_ne hs]
    rfl
  · simp only [takeCollection?, dropWhile_ne hs, takeWhile_ne hs]
    rfl

theorem takeCollection?_cons {c : Char} (hround : c ≠ '(') (hsquare : c ≠ '[') (s : List Char) :
    takeCollection? (c :: s) = Markup.takeValue? (c :: s) := by
  rw [takeCollection?]
  · intro rest heq
    cases heq
    exact hround rfl
  · intro rest heq
    cases heq
    exact hsquare rfl

/-- A collection ends at the first closing bracket or quote, or else at a blank. -/
theorem takeCollection?_text (collection : LoopCollection) {t : List Char} (ht : StartsBlank t) :
    takeCollection? (collection.text ++ t) = some (collection.text, t) := by
  cases collection with
  | path s hplain hpath =>
    obtain ⟨c, rest, heq, hc⟩ :=
      hpath.exists_cons fun c hc => not_isBlank_of_isPlain (hplain c hc)
    have htake := hpath.takeValue? hplain ht
    rw [text]
    rw [heq, List.cons_append] at htake ⊢
    rw [takeCollection?_cons (ne_of_class hc rfl) (ne_of_class hc rfl), htake]
  | range first last =>
    have hclosed : ')' ∉ first.text ++ '.' :: '.' :: last.text := by
      intro h
      rcases List.mem_append.1 h with h | h
      · exact absurd (first.isPathChar_of_mem _ h) (by decide)
      · rw [List.mem_cons, List.mem_cons] at h
        rcases h with h | h | h
        · cases h
        · cases h
        · exact absurd (last.isPathChar_of_mem _ h) (by decide)
    exact takeCollection?_enclosed (.inr ⟨rfl, rfl⟩) hclosed t
  | array inner hflat harray => exact takeCollection?_enclosed (.inl ⟨rfl, rfl⟩) hflat t
  | quoted q s hq hs =>
    have htake := Markup.takeValue?_quoted hq hs t
    rw [text, List.cons_append, takeCollection?_cons (ne_of_class hq rfl) (ne_of_class hq rfl)]
    exact htake

end LoopCollection

namespace LoopHeader

/-! ### Headers -/

/-- The header of a loop as it is written. -/
structure Spelling where
  /-- The variable that is bound to each item. -/
  item : LoopWord
  /-- What the loop goes over. -/
  collection : LoopCollection
  /-- The options. -/
  options : List LoopOption

namespace Spelling

/-- A header as it is written. -/
def text (s : Spelling) : List Char :=
  s.item.text ++ ' ' :: 'i' :: 'n' :: ' '
    :: (s.collection.text ++ LoopOption.optionsText s.options)

/-- What is read. -/
def header (s : Spelling) : LoopHeader where
  itemName := String.ofList s.item.text
  collection := Expression.read s.collection.text
  name := String.ofList (s.item.text ++ '-' :: s.collection.text)
  attributes := Keyed.insertAll []
    ((LoopOption.pairs s.options).map fun pair => (pair.1, pair.2.readUnder pair.1))
  reversed := (words (LoopOption.optionsText s.options)).any (String.ofList · == "reversed")

/-- The parts of a header are found. -/
theorem splitLoop?_text (s : Spelling) :
    splitLoop? s.text
      = some (s.item.text, s.collection.text, trimStart (LoopOption.optionsText s.options)) := by
  obtain ⟨c, rest, hitem, hc⟩ := s.item.exists_cons
  obtain ⟨d, others, hcollection, hd⟩ := s.collection.exists_cons
  have hblank := Expression.not_isBlank_of_isNameChar (isNameChar_of_isAsciiWord hc)
  have htrim : trimStart s.text = s.text := by
    rw [text, hitem, List.cons_append, trimStart,
      List.dropWhile_cons_of_neg (Bool.eq_false_iff.1 hblank)]
  have hbehind : trimStart (s.collection.text ++ LoopOption.optionsText s.options)
      = s.collection.text ++ LoopOption.optionsText s.options := by
    rw [hcollection, List.cons_append, trimStart,
      List.dropWhile_cons_of_neg (Bool.eq_false_iff.1 hd)]
  have hstop : ∀ e ∈ (' ' :: 'i' :: 'n' :: ' '
      :: (s.collection.text ++ LoopOption.optionsText s.options)).head?, isWord e = false := by
    intro e he
    cases he
    rfl
  -- the word ends at the space in front of `in`
  have hname := takeWhile_run s.item.isWord hstop
  have hgap := dropWhile_run s.item.isWord hstop
  have htake := s.collection.takeCollection?_text
    (LoopOption.startsBlank_optionsText s.options)
  have hin : trimStart (' ' :: 'i' :: 'n' :: ' '
      :: (s.collection.text ++ LoopOption.optionsText s.options)) = 'i' :: 'n' :: ' '
      :: (s.collection.text ++ LoopOption.optionsText s.options) := rfl
  have hspace : isBlank ' ' = true := rfl
  rw [splitLoop?, htrim, text]
  simp only [hname, hgap, hin, hbehind, htake, hspace,
    List.isEmpty_eq_false_iff.2 s.item.ne_nil]
  rfl

/-- The text of a header is read as the header. -/
theorem parse_spelling_text (tag : String) (s : Spelling) :
    LoopHeader.parse tag (String.ofList s.text) = .ok s.header := by
  have hcollection := Expression.parse_eq_read s.collection.exists_parse
  rw [LoopHeader.parse, String.toList_ofList, s.splitLoop?_text]
  dsimp only
  rw [LoopOption.attributes_trimStart, hcollection, words_trimStart, LoopOption.mapM_parse_pairs]
  rfl

theorem header_reversed_iff (s : Spelling) :
    s.header.reversed = true ↔ ∃ option ∈ s.options, option.HoldsReversed := by
  have hword : ∀ w : List Char, (String.ofList w == "reversed") = true ↔ w = reversedWord.text := by
    intro w
    have hreversed : "reversed" = String.ofList reversedWord.text := by decide
    rw [beq_iff_eq, hreversed, String.ofList_inj]
  rw [← LoopOption.mem_words_optionsText, header, List.any_eq_true]
  simp only [hword, exists_eq_right]

end Spelling

/-- Headers say what is written, but for one word. The variable, the collection and the name of the
loop are those of the text. Under the name of an option stands what its last value is read as, and
under other names nothing. The loop is turned around where `reversed` is one of the options, and
also where it is the value of one, behind a space, or stands between blanks in a quoted value. -/
theorem parse_options (tag : String) (s : Spelling) :
    ∃ header, LoopHeader.parse tag (String.ofList s.text) = .ok header
      ∧ header.itemName = String.ofList s.item.text
      ∧ Expression.parse s.collection.text = .ok header.collection
      ∧ header.name = String.ofList (s.item.text ++ '-' :: s.collection.text)
      ∧ (∀ key, LoopOption.lastValue? key s.options = none →
          Keyed.get? key header.attributes = none)
      ∧ (∀ key value, LoopOption.lastValue? key s.options = some value →
          ∃ e, Expression.parse value.text = .ok e
            ∧ Keyed.get? key header.attributes
              = some (if key = "offset" ∧ String.ofList value.text = "continue" then .resume
                else .expression e))
      ∧ (header.reversed = true ↔ ∃ option ∈ s.options, option.HoldsReversed) := by
  refine ⟨s.header, s.parse_spelling_text tag, rfl,
    Expression.parse_eq_read s.collection.exists_parse, rfl, fun key hkey => ?_,
    fun key value hkey => ?_, s.header_reversed_iff⟩
  · exact (LoopOption.get?_readUnder key s.options).trans (by rw [hkey]; rfl)
  · refine ⟨_, Expression.parse_eq_read value.exists_parse, ?_⟩
    exact (LoopOption.get?_readUnder key s.options).trans (by rw [hkey]; rfl)

/-- Options with and without a space behind the colon, and one in the value of another. -/
theorem parse_options_offset :
    ∃ header, LoopHeader.parse "for"
        "i in (1..3) note: 'limit: 9' limit:2 reversed offset: continue" = .ok header
      ∧ header.reversed = true ∧ Keyed.get? "offset" header.attributes = some .resume
      ∧ Keyed.get? "limit" header.attributes = some (.expression (.literal (.integer 2)))
      ∧ Keyed.get? "cols" header.attributes = none := by
  let s : Spelling := {
    item := ⟨['i'], by decide, List.all_eq_true.1 rfl⟩
    collection := .range ⟨⟨['1'], by decide, List.all_eq_true.1 rfl⟩, []⟩
      ⟨⟨['3'], by decide, List.all_eq_true.1 rfl⟩, []⟩
    options := [
      .pair ⟨"note".toList, by decide, List.all_eq_true.1 rfl⟩ true
        (.quoted '\'' "limit: 9".toList rfl (by decide)),
      .pair ⟨"limit".toList, by decide, List.all_eq_true.1 rfl⟩ false (.integer ['2'] rfl),
      .reversed,
      .pair ⟨"offset".toList, by decide, List.all_eq_true.1 rfl⟩ true
        (.path "continue".toList (List.all_eq_true.1 rfl)
          ⟨_, _, _, Expression.parse_name (by decide) (by decide) rfl⟩)] }
  have htext : String.ofList s.text
      = "i in (1..3) note: 'limit: 9' limit:2 reversed offset: continue" := by decide +kernel
  obtain ⟨header, hparse, -, -, -, hnone, hsome, hreversed⟩ := parse_options "for" s
  rw [htext] at hparse
  obtain ⟨_, -, hoffset⟩ := hsome "offset" _ rfl
  obtain ⟨e, he, hlimit⟩ := hsome "limit" _ rfl
  have htwo : Expression.parse ['2'] = .ok (.literal (.integer 2)) :=
    Expression.parse_of_constant? rfl
  cases htwo.symm.trans he
  exact ⟨header, hparse, hreversed.2 ⟨.reversed, by simp [s], trivial⟩, hoffset, hlimit,
    hnone "cols" rfl⟩

/-- The word turns a loop around from within the value of another option. -/
theorem quoted_word_reverses :
    ∃ (s : Spelling) (header : LoopHeader),
      String.ofList s.text = "i in (1..3) note: 'a reversed b'"
      ∧ LoopHeader.parse "for" (String.ofList s.text) = .ok header
      ∧ (∀ option ∈ s.options, ∃ name spaced value, option = LoopOption.pair name spaced value)
      ∧ header.reversed = true := by
  let s : Spelling := {
    item := ⟨['i'], by decide, List.all_eq_true.1 rfl⟩
    collection := .range ⟨⟨['1'], by decide, List.all_eq_true.1 rfl⟩, []⟩
      ⟨⟨['3'], by decide, List.all_eq_true.1 rfl⟩, []⟩
    options := [
      .pair ⟨"note".toList, by decide, List.all_eq_true.1 rfl⟩ true
        (.quoted '\'' "a reversed b".toList rfl (by decide))] }
  refine ⟨s, s.header, by decide +kernel, s.parse_spelling_text "for", fun option h => ?_, ?_⟩
  · cases List.mem_singleton.1 h
    exact ⟨_, _, _, rfl⟩
  · refine s.header_reversed_iff.2 ⟨_, List.mem_cons_self, ['a'], ' ', ' ', ['b'], rfl, rfl, rfl⟩

end LoopHeader

end Liquid
