import Liquid.Loop
import Liquid.Proofs.Expression.Kinds
import Liquid.Proofs.Keyed
import Liquid.Proofs.Markup.Attributes
import Liquid.Proofs.Text.Words

/-!
# Loop options as they are written

Options, each behind one space. Two scans go over such a text: for the options with a value, and for
the word `reversed`. The second does not know of values, and so it comes upon the word in them, too.

- `LoopValue`, `LoopWord`, `LoopOption`: spellings. They hold the proofs that they can be written
  down.
- `LoopValue.takeValue?_text`, `LoopValue.parse_readUnder`: a value is found, and can be read.
- `LoopOption.attributes_optionsText`: the options with a value are found, in order.
- `LoopOption.HoldsReversed`, `LoopOption.mem_words_optionsText`: which options have the word in
  them.
-/

namespace Liquid

open Text

/-! ### Values of options -/

/-- The value of an option as it is written. -/
inductive LoopValue where
  /-- Digits, with a minus or without. -/
  | integer (text : List Char) (isInteger : Expression.IsInteger text)
  /-- A path without blanks and commas. -/
  | path (text : List Char) (plain : ∀ c ∈ text, Markup.isPlain c = true)
    (isPath : Expression.IsPath text)
  /-- Text in quotes that do not stand in it. -/
  | quoted (quote : Char) (text : List Char) (isQuote : isQuote quote = true)
    (closed : quote ∉ text)

theorem not_isBlank_of_isPlain {c : Char} (h : Markup.isPlain c = true) : isBlank c = false := by
  rw [Markup.isPlain, Bool.and_eq_true, Bool.not_eq_true'] at h
  exact h.1

theorem isPlain_of_isNameChar {c : Char} (h : Expression.isNameChar c = true) :
    Markup.isPlain c = true := by
  rw [Markup.isPlain, Expression.not_isBlank_of_isNameChar h,
    bne_iff_ne.2 (ne_of_class h rfl : c ≠ ',')]
  rfl

/-- What may stand behind a part of a header: nothing, or a blank. -/
def StartsBlank (s : List Char) : Prop := ∀ c ∈ s.head?, isBlank c = true

theorem StartsBlank.not_isPlain {s : List Char} (h : StartsBlank s) :
    ∀ c ∈ s.head?, Markup.isPlain c = false := by
  intro c hc
  rw [Markup.isPlain, h c hc]
  rfl

/-- A path ends where it is followed by nothing or a blank. -/
theorem Expression.IsPath.takeValue? {text t : List Char} (h : IsPath text)
    (hplain : ∀ c ∈ text, Markup.isPlain c = true) (ht : StartsBlank t) :
    Markup.takeValue? (text ++ t) = some (text, t) := by
  obtain ⟨c, rest, rfl, hc⟩ := h.exists_cons fun c hc => not_isBlank_of_isPlain (hplain c hc)
  exact Markup.takeValue?_plain (isQuote_of_isNameChar hc) hplain ht.not_isPlain

namespace LoopValue

/-- A value as it is written. -/
def text : LoopValue → List Char
  | integer text _ => text
  | path text _ _ => text
  | quoted quote text _ _ => quote :: (text ++ [quote])

theorem takeValue?_text (v : LoopValue) {t : List Char} (ht : StartsBlank t) :
    Markup.takeValue? (v.text ++ t) = some (v.text, t) := by
  cases v with
  | integer s h =>
    obtain ⟨c, rest, rfl⟩ := List.exists_cons_of_ne_nil h.ne_nil
    refine Markup.takeValue?_plain ?_ (fun d hd => isPlain_of_isNameChar (h.isNameChar d hd))
      ht.not_isPlain
    exact Expression.isQuote_of_isNameChar (h.isNameChar c List.mem_cons_self)
  | path s hplain hpath => exact hpath.takeValue? hplain ht
  | quoted q s hq hs => exact Markup.takeValue?_quoted hq hs t

theorem exists_parse (v : LoopValue) : ∃ e, Expression.parse v.text = .ok e := by
  cases v with
  | integer s h => exact h.exists_parse
  | path s hplain hpath =>
    obtain ⟨root, segments, raw, hparse⟩ := hpath
    exact ⟨_, hparse⟩
  | quoted q s hq hs => exact ⟨_, (Expression.Spelling.string q s hq hs).parse_text⟩

/-- No value begins with a blank. -/
theorem exists_cons (v : LoopValue) : ∃ c rest, v.text = c :: rest ∧ isBlank c = false := by
  cases v with
  | integer s h =>
    obtain ⟨c, rest, rfl⟩ := List.exists_cons_of_ne_nil h.ne_nil
    have hc := h.isNameChar c List.mem_cons_self
    exact ⟨c, rest, rfl, Expression.not_isBlank_of_isNameChar hc⟩
  | path s hplain hpath =>
    obtain ⟨c, rest, heq, hc⟩ :=
      hpath.exists_cons fun c hc => not_isBlank_of_isPlain (hplain c hc)
    exact ⟨c, rest, heq, Expression.not_isBlank_of_isNameChar hc⟩
  | quoted q s hq hs => exact ⟨q, s ++ [q], rfl, not_isBlank_of_isQuote hq⟩

/-- What a value is read as under a name. -/
def readUnder (key : String) (v : LoopValue) : LoopAttribute :=
  if key = "offset" ∧ String.ofList v.text = "continue" then .resume
  else .expression (Expression.read v.text)

theorem parse_readUnder (key : String) (v : LoopValue) :
    LoopAttribute.parse key.toList v.text = .ok (v.readUnder key) := by
  rw [LoopAttribute.parse, readUnder, String.ofList_toList,
    Expression.parse_eq_read v.exists_parse]
  split
  · rfl
  · rfl

end LoopValue

/-! ### Options -/

/-- A character of a word, of ASCII. -/
def isAsciiWord (c : Char) : Bool := isAsciiAlphanumeric c || c == '_'

theorem isNameChar_of_isAsciiWord {c : Char} (h : isAsciiWord c = true) :
    Expression.isNameChar c = true := by
  rw [isAsciiWord] at h
  rw [Expression.isNameChar, h]
  rfl

theorem isWord_of_isAsciiWord {c : Char} (h : isAsciiWord c = true) : isWord c = true := by
  have hlow := (Expression.toNat_of_isNameChar (isNameChar_of_isAsciiWord h)).2
  rw [isWord, if_pos (by omega)]
  exact h

/-- A word of ASCII: the variable of a loop, or the name of an option. -/
structure LoopWord where
  /-- The characters of the word. -/
  text : List Char
  /-- It has one at least. -/
  ne_nil : text ≠ []
  /-- They are ASCII letters, digits and `_`. -/
  isAsciiWord : ∀ c ∈ text, isAsciiWord c = true

namespace LoopWord

theorem isWord (word : LoopWord) : ∀ c ∈ word.text, isWord c = true := fun c hc =>
  isWord_of_isAsciiWord (word.isAsciiWord c hc)

theorem not_isBlank (word : LoopWord) : ∀ c ∈ word.text, isBlank c = false := fun c hc =>
  Expression.not_isBlank_of_isNameChar (isNameChar_of_isAsciiWord (word.isAsciiWord c hc))

theorem exists_cons (word : LoopWord) :
    ∃ c rest, word.text = c :: rest ∧ Liquid.isAsciiWord c = true := by
  obtain ⟨c, rest, heq⟩ := List.exists_cons_of_ne_nil word.ne_nil
  exact ⟨c, rest, heq, word.isAsciiWord c (by rw [heq]; exact List.mem_cons_self)⟩

end LoopWord

/-- The word that turns a loop around. -/
def reversedWord : LoopWord :=
  ⟨['r', 'e', 'v', 'e', 'r', 's', 'e', 'd'], by decide, List.all_eq_true.1 rfl⟩

namespace LoopValue

/-- The value has the word `reversed` in it, between blanks, where a space stands in front of it or
not: without quotes it is all of the value, and in quotes there are blanks on both sides of it. -/
def HoldsReversed (spaced : Bool) : LoopValue → Prop
  | integer _ _ => False
  | path text _ _ => spaced = true ∧ text = reversedWord.text
  | quoted _ text _ _ => StandsBetween reversedWord.text text

theorem not_mem_reversedWord {q : Char} (hq : isQuote q = true) : q ∉ reversedWord.text := by
  intro h
  have hword := isWord_of_isAsciiWord (reversedWord.isAsciiWord q h)
  simp only [isQuote, Bool.or_eq_true, beq_iff_eq] at hq
  rcases hq with rfl | rfl
  · cases hword
  · cases hword

theorem mem_words_text (v : LoopValue) :
    reversedWord.text ∈ words v.text ↔ v.HoldsReversed true := by
  cases v with
  | integer s h =>
    have hblank := fun c hc => Expression.not_isBlank_of_isNameChar (h.isNameChar c hc)
    rw [text, words_of_forall h.ne_nil hblank, List.mem_singleton]
    refine iff_of_false ?_ id
    rintro rfl
    cases h
  | path s hplain hpath =>
    have hblank := fun c hc => not_isBlank_of_isPlain (hplain c hc)
    obtain ⟨c, rest, heq, -⟩ := hpath.exists_cons hblank
    have hne : s ≠ [] := by
      rw [heq]
      exact List.cons_ne_nil c rest
    rw [text, words_of_forall hne hblank, List.mem_singleton, HoldsReversed, eq_comm]
    exact (and_iff_right rfl).symm
  | quoted q s hq hs =>
    have hword := mem_words_quoted_iff (p := []) (s := s) reversedWord.ne_nil
      reversedWord.not_isBlank (not_mem_reversedWord hq) (List.forall_mem_nil _)
      (not_isBlank_of_isQuote hq)
    exact hword

/-- Behind a name with its colon. -/
theorem mem_words_behind {p : List Char} (hp : ∀ c ∈ p, isBlank c = false) (hcolon : ':' ∈ p)
    (v : LoopValue) : reversedWord.text ∈ words (p ++ v.text) ↔ v.HoldsReversed false := by
  -- without blanks in it, the value and the name are one word
  have hjoined : (∀ c ∈ v.text, isBlank c = false) → reversedWord.text ∉ words (p ++ v.text) := by
    intro hv h
    have hall : ∀ c ∈ p ++ v.text, isBlank c = false := List.forall_mem_append.2 ⟨hp, hv⟩
    rw [words_of_forall (List.append_ne_nil_of_left_ne_nil (List.ne_nil_of_mem hcolon) _) hall,
      List.mem_singleton] at h
    have hmem := List.mem_append_left v.text hcolon
    rw [← h] at hmem
    exact absurd hmem (by decide)
  cases v with
  | integer s h =>
    exact iff_of_false (hjoined fun c hc =>
      Expression.not_isBlank_of_isNameChar (h.isNameChar c hc)) id
  | path s hplain hpath =>
    exact iff_of_false (hjoined fun c hc => not_isBlank_of_isPlain (hplain c hc))
      fun h => Bool.false_ne_true h.1
  | quoted q s hq hs =>
    exact mem_words_quoted_iff reversedWord.ne_nil reversedWord.not_isBlank
      (not_mem_reversedWord hq) hp (not_isBlank_of_isQuote hq)

end LoopValue

/-- An option of a loop as it is written. -/
inductive LoopOption where
  /-- The word `reversed`. -/
  | reversed
  /-- A name and a value, with a space behind the colon or without. -/
  | pair (name : LoopWord) (spaced : Bool) (value : LoopValue)

namespace LoopOption

/-- An option as it is written. -/
def text : LoopOption → List Char
  | reversed => reversedWord.text
  | pair name true value => name.text ++ ':' :: ' ' :: value.text
  | pair name false value => name.text ++ ':' :: value.text

/-- The name and the value, if the option has them. -/
def pair? : LoopOption → Option (String × LoopValue)
  | reversed => none
  | pair name _ value => some (String.ofList name.text, value)

/-- The options with a value, in order. -/
def pairs (options : List LoopOption) : List (String × LoopValue) := options.filterMap pair?

/-- The last value that an option of this name has. -/
def lastValue? (key : String) (options : List LoopOption) : Option LoopValue :=
  (pairs options).reverse.lookup key

/-- Options as they are written, each behind one space. -/
def optionsText (options : List LoopOption) : List Char :=
  options.flatMap fun option => ' ' :: option.text

theorem optionsText_cons (option : LoopOption) (rest : List LoopOption) :
    optionsText (option :: rest) = ' ' :: (option.text ++ optionsText rest) := rfl

theorem startsBlank_optionsText (options : List LoopOption) :
    StartsBlank (optionsText options) := by
  intro c hc
  cases options with
  | nil => cases hc
  | cons option rest =>
    cases hc
    rfl

theorem exists_cons (option : LoopOption) :
    ∃ c rest, option.text = c :: rest ∧ isAsciiWord c = true := by
  cases option with
  | reversed => exact ⟨'r', _, rfl, rfl⟩
  | pair name spaced value =>
    obtain ⟨c, rest, heq, hc⟩ := name.exists_cons
    cases spaced with
    | true => exact ⟨c, _, by rw [text, heq]; rfl, hc⟩
    | false => exact ⟨c, _, by rw [text, heq]; rfl, hc⟩

/-- Trimming takes the space in front of the first option. -/
theorem trimStart_optionsText (option : LoopOption) (rest : List LoopOption) :
    trimStart (optionsText (option :: rest)) = option.text ++ optionsText rest := by
  obtain ⟨c, others, heq, hc⟩ := option.exists_cons
  have hblank := Expression.not_isBlank_of_isNameChar (isNameChar_of_isAsciiWord hc)
  rw [optionsText_cons, heq, List.cons_append, trimStart, List.dropWhile_cons_of_pos rfl,
    List.dropWhile_cons_of_neg (Bool.eq_false_iff.1 hblank)]

/-- Behind a word without a value no colon comes. -/
theorem takeOption?_optionsText (options : List LoopOption) :
    Markup.takeOption? (optionsText options) = none := by
  cases options with
  | nil => rfl
  | cons option rest =>
    obtain ⟨c, others, heq, hc⟩ := option.exists_cons
    rw [Markup.takeOption?, trimStart_optionsText, heq, List.cons_append]
    split
    · next hcolon =>
      cases hcolon
      cases hc
    · rfl

theorem not_isWord_optionsText (options : List LoopOption) :
    ∀ c ∈ (optionsText options).head?, isWord c = false := by
  intro c hc
  cases options with
  | nil => cases hc
  | cons option rest =>
    cases hc
    rfl

/-- A name and a colon in front of a value, with blanks between them or without. -/
theorem attributes_pair (name : LoopWord) (value : LoopValue) {gap t : List Char}
    (hgap : AllBlank gap) (ht : StartsBlank t) :
    Markup.attributes (name.text ++ ':' :: (gap ++ (value.text ++ t)))
      = (name.text, value.text) :: Markup.attributes t := by
  obtain ⟨c, rest, heq, hc⟩ := value.exists_cons
  have htrim : trimStart (gap ++ (value.text ++ t)) = value.text ++ t := by
    rw [trimStart, List.dropWhile_append_of_pos hgap, heq, List.cons_append,
      List.dropWhile_cons_of_neg (Bool.eq_false_iff.1 hc)]
  have htake : Markup.takeOption? (':' :: (gap ++ (value.text ++ t))) = some (value.text, t) := by
    have hcolon : trimStart (':' :: (gap ++ (value.text ++ t)))
        = ':' :: (gap ++ (value.text ++ t)) := List.dropWhile_cons_of_neg (by decide)
    simp only [Markup.takeOption?, hcolon, htrim, value.takeValue?_text ht]
  rw [Markup.attributes_append name.ne_nil name.isWord, htake]
  intro c hc
  cases hc
  rfl

/-- The options with a value are found, in order. -/
theorem attributes_optionsText (options : List LoopOption) :
    Markup.attributes (optionsText options)
      = (pairs options).map fun pair => (pair.1.toList, pair.2.text) := by
  induction options with
  | nil => exact Markup.attributes_nil
  | cons option rest ih =>
    have ht := startsBlank_optionsText rest
    rw [optionsText_cons, Markup.attributes_skip rfl]
    cases option with
    | reversed =>
      -- the scan takes the word for the name of an option, and finds no colon behind it
      rw [text, Markup.attributes_append reversedWord.ne_nil reversedWord.isWord
        (not_isWord_optionsText rest), takeOption?_optionsText]
      exact ih
    | pair name spaced value =>
      have hpairs : pairs (pair name spaced value :: rest)
          = (String.ofList name.text, value) :: pairs rest := rfl
      rw [hpairs, List.map_cons, String.toList_ofList, ← ih]
      cases spaced with
      | true =>
        rw [text, List.append_assoc]
        exact attributes_pair name value allBlank_space ht
      | false =>
        rw [text, List.append_assoc]
        exact attributes_pair name value allBlank_nil ht

/-- The space in front of the options does not count. -/
theorem attributes_trimStart (options : List LoopOption) :
    Markup.attributes (trimStart (optionsText options))
      = (pairs options).map fun pair => (pair.1.toList, pair.2.text) := by
  rw [← attributes_optionsText]
  cases options with
  | nil => rfl
  | cons option rest =>
    rw [trimStart_optionsText, optionsText_cons, Markup.attributes_skip rfl]

/-- Every option with a value can be read. -/
theorem mapM_parse_pairs (pairs : List (String × LoopValue)) :
    ((pairs.map fun pair => (pair.1.toList, pair.2.text)).mapM fun option => do
        return (String.ofList option.1, ← LoopAttribute.parse option.1 option.2))
      = .ok (pairs.map fun pair => (pair.1, pair.2.readUnder pair.1)) := by
  induction pairs with
  | nil => rfl
  | cons pair rest ih =>
    rw [List.map_cons, List.mapM_cons, ih, pair.2.parse_readUnder, String.ofList_toList]
    rfl

/-- What stands under a name is what the last of its values is read as. -/
theorem get?_readUnder (key : String) (options : List LoopOption) :
    Keyed.get? key (Keyed.insertAll []
        ((pairs options).map fun pair => (pair.1, pair.2.readUnder pair.1)))
      = (lastValue? key options).map (·.readUnder key) := by
  -- entries that come later are inserted over earlier ones: the look-up is back to front
  have hlookup : ∀ pairs : List (String × LoopValue),
      (pairs.map fun pair => (pair.1, pair.2.readUnder pair.1)).lookup key
        = (pairs.lookup key).map (·.readUnder key) := by
    intro pairs
    induction pairs with
    | nil => rfl
    | cons pair rest ih =>
      rw [List.map_cons, List.lookup_cons, List.lookup_cons]
      by_cases hkey : key = pair.1
      · rw [hkey, beq_self_eq_true]
        rfl
      · rw [beq_false_of_ne hkey]
        exact ih
  rw [Keyed.get?_insertAll, ← List.map_reverse, hlookup]
  exact Option.or_none

/-! ### The word `reversed` -/

/-- The option has the word `reversed` in it: it is this word, or its value has it. -/
def HoldsReversed : LoopOption → Prop
  | reversed => True
  | pair _ spaced value => value.HoldsReversed spaced

theorem words_optionsText (options : List LoopOption) :
    words (optionsText options) = options.flatMap fun option => words option.text := by
  induction options with
  | nil => rfl
  | cons option rest ih =>
    rw [optionsText_cons, words_cons_blank rfl, List.flatMap_cons, ← ih]
    cases rest with
    | nil => rw [optionsText, List.flatMap_nil, List.append_nil, words_nil, List.append_nil]
    | cons next rest =>
      rw [optionsText_cons, words_append_blank rfl, words_cons_blank rfl]

/-- Which options have the word in them. -/
theorem mem_words_text (option : LoopOption) :
    reversedWord.text ∈ words option.text ↔ option.HoldsReversed := by
  cases option with
  | reversed =>
    rw [text, words_of_forall reversedWord.ne_nil reversedWord.not_isBlank]
    exact iff_of_true List.mem_cons_self trivial
  | pair name spaced value =>
    have hname : ∀ c ∈ name.text ++ [':'], isBlank c = false := by
      intro c hc
      rcases List.mem_append.1 hc with hc | hc
      · exact name.not_isBlank c hc
      · rw [List.mem_singleton.1 hc]
        rfl
    have hcolon : ':' ∈ name.text ++ [':'] := List.mem_append_right _ List.mem_cons_self
    cases spaced with
    | true =>
      have htext : (pair name true value).text = (name.text ++ [':']) ++ ' ' :: value.text := by
        rw [text, List.append_assoc]
        rfl
      rw [htext, words_append_blank rfl, words_of_forall (by simp) hname, List.mem_append,
        List.mem_singleton, value.mem_words_text]
      -- the name is a word with its colon, and so it is not the word that is looked for
      refine or_iff_right fun heq => ?_
      rw [← heq] at hcolon
      exact absurd hcolon (by decide)
    | false =>
      have htext : (pair name false value).text = (name.text ++ [':']) ++ value.text := by
        rw [text, List.append_assoc]
        rfl
      rw [htext]
      exact value.mem_words_behind hname hcolon

/-- The word is among those of the options where one of them has it. -/
theorem mem_words_optionsText (options : List LoopOption) :
    reversedWord.text ∈ words (optionsText options) ↔ ∃ option ∈ options, option.HoldsReversed := by
  rw [words_optionsText, List.mem_flatMap]
  simp only [mem_words_text]

end LoopOption

end Liquid
