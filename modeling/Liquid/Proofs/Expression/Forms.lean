import Liquid.Proofs.Decimal.Digits
import Liquid.Proofs.Except
import Liquid.Proofs.Expression.Names
import Liquid.Proofs.Text.Quoted

/-!
# The forms of an expression

Which form a text has decides how it is read on. The forms are tried one after the other, and so
each lemma about a later form says that the earlier ones do not fit.

- `Expression.parse_eq`: the order of the forms.
- `Expression.quoted?_eq_some_iff`: the texts that are read as strings.
- `Expression.constant?_quoted`, `Expression.constant?_numeral`: the constants that are written out.
- `Expression.constant?_bracket`, `Expression.constant?_path`: what is no constant.
- `Expression.parse_range`, `Expression.parse_array`, `Expression.parse_path`: the other forms.
- `Expression.parse_name`, `Expression.parse_name_key`: what a name is read as, by itself and with
  one key.
-/

namespace Liquid.Expression

open Text

/-! ### The order of the forms -/

/-- Reads a path, all of the text. -/
def parsePath (s : List Char) : Except Error Expression := do
  let text := String.ofList s
  let root := s.takeWhile isNameChar
  if root.isEmpty then throw (.markup .variableName text)
  let segments ← parseSegments text (s.dropWhile isNameChar)
  return .path (String.ofList root) segments text

theorem parse_of_constant? {s : List Char} {v : Value} (h : constant? (trim s) = some v) :
    parse s = .ok (.literal v) := by
  rw [parse, h]

section Forms

variable {s : List Char} (hconstant : constant? (trim s) = none)
include hconstant

theorem parse_of_rangeParts? {parts : List Char × List Char}
    (h : rangeParts? (trim s) = some parts) :
    parse s = (do
      let first ← parse parts.1
      let last ← parse parts.2
      return .range first last) := by
  rw [parse, hconstant]
  dsimp only
  split
  · next parts' hparts =>
    rw [h] at hparts
    cases hparts
    rfl
  · next hnone =>
    rw [h] at hnone
    cases hnone

variable (hrange : rangeParts? (trim s) = none)
include hrange

theorem parse_of_arrayItems? {pieces : List (List Char)}
    (h : arrayItems? (trim s) = some pieces) : parse s = array <$> pieces.mapM parse := by
  have hattach : (pieces.attach.mapM fun piece => parse piece.1) = pieces.mapM parse := by
    have hmap := List.mapM_map (f := Subtype.val) (g := parse) (l := pieces.attach)
    rw [List.attach_map_subtype_val] at hmap
    exact hmap.symm
  rw [parse, hconstant]
  dsimp only
  split
  · next parts hparts =>
    rw [hrange] at hparts
    cases hparts
  · split
    · next pieces' hpieces =>
      rw [h] at hpieces
      cases hpieces
      rw [hattach]
      exact (map_eq_pure_bind array _).symm
    · next hnone =>
      rw [h] at hnone
      cases hnone

theorem parse_eq_parsePath (h : arrayItems? (trim s) = none) :
    parse s = parsePath (trim s) := by
  rw [parse, hconstant]
  dsimp only
  split
  · next parts hparts =>
    rw [hrange] at hparts
    cases hparts
  · split
    · next pieces hpieces =>
      rw [h] at hpieces
      cases hpieces
    · rfl

end Forms

/-- Constants come first, then ranges, lists and paths. -/
theorem parse_eq (s : List Char) :
    parse s =
      match constant? (trim s) with
      | some value => .ok (.literal value)
      | none =>
        match rangeParts? (trim s) with
        | some parts => do
          let first ← parse parts.1
          let last ← parse parts.2
          return .range first last
        | none =>
          match arrayItems? (trim s) with
          | some pieces => array <$> pieces.mapM parse
          | none => parsePath (trim s) := by
  cases hconstant : constant? (trim s) with
  | some value => exact parse_of_constant? hconstant
  | none =>
    cases hrange : rangeParts? (trim s) with
    | some parts => exact parse_of_rangeParts? hconstant hrange
    | none =>
      cases harray : arrayItems? (trim s) with
      | some pieces => exact parse_of_arrayItems? hconstant hrange harray
      | none => exact parse_eq_parsePath hconstant hrange harray

/-- Blanks around an expression do not count. -/
theorem parse_trim (s : List Char) : parse (trim s) = parse s := by
  rw [parse_eq, parse_eq s, trim_trim]

theorem mapM_parse_of_constants {pieces : List (List Char)} {values : List Value}
    (h : pieces.map (fun piece => constant? (trim piece)) = values.map some) :
    pieces.mapM parse = .ok (values.map .literal) := by
  induction pieces generalizing values with
  | nil =>
    cases values with
    | nil => rfl
    | cons => cases h
  | cons piece rest ih =>
    cases values with
    | nil => cases h
    | cons value values =>
      obtain ⟨hpiece, hrest⟩ := List.cons.inj h
      exact mapM_cons_eq_ok_iff.2 ⟨_, _, parse_of_constant? hpiece, ih hrest, rfl⟩

theorem mapM_parse_trim (pieces : List (List Char)) :
    (pieces.map trim).mapM parse = pieces.mapM parse := by
  rw [List.mapM_map]
  exact congrArg (fun f => List.mapM f pieces) (funext parse_trim)

/-! ### Strings -/

/-- Strings are told by their ends: the same quote character twice. -/
theorem quoted?_eq_some_iff {s text : List Char} :
    quoted? s = some text ↔ ∃ q, isQuote q = true ∧ s = q :: (text ++ [q]) := by
  cases s with
  | nil =>
    constructor
    · intro h
      cases h
    · rintro ⟨q, -, h⟩
      cases h
  | cons q rest =>
    rw [quoted?, Option.ite_none_right_eq_some, Bool.and_eq_true, beq_iff_eq, Option.some.injEq]
    constructor
    · rintro ⟨⟨hq, hlast⟩, rfl⟩
      refine ⟨q, hq, ?_⟩
      obtain ⟨front, rfl⟩ := List.getLast?_eq_some_iff.1 hlast
      rw [List.dropLast_concat]
    · rintro ⟨q', hq, h⟩
      cases h
      exact ⟨⟨hq, List.getLast?_concat⟩, List.dropLast_concat⟩

theorem quoted?_cons_eq_none {c : Char} (hc : isQuote c = false) (s : List Char) :
    quoted? (c :: s) = none := by
  rw [quoted?, hc]
  rfl

/-! ### Constants -/

/-- The words that are constants. -/
def keywords : List String := ["nil", "null", "true", "false"]

/-- Text that is there and is no keyword is a string or a number, or else no constant. -/
theorem constant?_eq {s : List Char} (hne : s ≠ []) (hkeyword : String.ofList s ∉ keywords) :
    constant? s =
      match quoted? s with
      | some text => some (.ofChars text)
      | none =>
        match integer? s with
        | some i => some (.integer i)
        | none => (fraction? s).map .float := by
  have hempty : String.ofList s ≠ "" := by
    intro h
    exact hne (String.ofList_eq_empty_iff.1 h)
  simp only [keywords, List.mem_cons, List.not_mem_nil, or_false, not_or] at hkeyword
  obtain ⟨hnil, hnull, htrue, hfalse⟩ := hkeyword
  rw [constant?]
  split
  · next h => exact absurd h hempty
  · next h => exact absurd h hnil
  · next h => exact absurd h hnull
  · next h => exact absurd h htrue
  · next h => exact absurd h hfalse
  · rfl

/-- Keywords are letters. -/
theorem isAsciiLetter_of_mem_keywords {s : List Char} (h : String.ofList s ∈ keywords) :
    ∀ c ∈ s, isAsciiLetter c = true := by
  have hletters : (keywords.all fun word => word.toList.all isAsciiLetter) = true := by decide
  have hs := List.all_eq_true.1 (List.all_eq_true.1 hletters _ h)
  rwa [String.toList_ofList] at hs

theorem not_mem_keywords {c : Char} (hc : isAsciiLetter c = false) {s : List Char} (hs : c ∈ s) :
    String.ofList s ∉ keywords := by
  intro h
  rw [isAsciiLetter_of_mem_keywords h c hs] at hc
  cases hc

/-- Quoted text is a string, whatever stands in it. -/
theorem constant?_quoted {q : Char} (hq : isQuote q = true) (text : List Char) :
    constant? (q :: (text ++ [q])) = some (.ofChars text) := by
  have hletter : isAsciiLetter q = false := by
    simp only [isQuote, Bool.or_eq_true, beq_iff_eq] at hq
    rcases hq with rfl | rfl
    · rfl
    · rfl
  rw [constant?_eq (List.cons_ne_nil _ _) (not_mem_keywords hletter List.mem_cons_self),
    quoted?_eq_some_iff.2 ⟨q, hq, rfl⟩]

/-- Text that looks like none of the constants. A fraction has an integer in front of its point. -/
theorem constant?_eq_none {s : List Char} (hne : s ≠ []) (hkeyword : String.ofList s ∉ keywords)
    (hquoted : quoted? s = none)
    (hnumber : ∀ whole tail, (splitMinus s).2 = whole ++ tail →
      (tail = [] ∨ tail.head? = some '.') → Decimal.isDigits whole = false) :
    constant? s = none := by
  have hinteger : integer? s = none := by
    rw [integer?, hnumber _ [] (List.append_nil _).symm (.inl rfl)]
    rfl
  have hfraction : fraction? s = none := by
    rw [fraction?]
    split
    · next whole tail hcut =>
      have hs := cutAt?_eq_some hcut
      rw [List.append_assoc] at hs
      rw [hnumber whole _ hs (.inr rfl)]
      rfl
    · rfl
  rw [constant?_eq hne hkeyword, hquoted, hinteger, hfraction]
  rfl

/-! ### Numbers -/

theorem splitMinus_cons {c : Char} (hc : c ≠ '-') (s : List Char) :
    splitMinus (c :: s) = (false, c :: s) := by
  unfold splitMinus
  split
  · next heq =>
    cases heq
    exact absurd rfl hc
  · rfl

theorem isNameChar_of_isAsciiDigit {c : Char} (h : isAsciiDigit c = true) :
    isNameChar c = true := by
  simp [isNameChar, isAsciiAlphanumeric, h]

theorem isNameChar_of_mem_numeral {i : Int64} {c : Char} (h : c ∈ Decimal.numeral i) :
    isNameChar c = true := by
  obtain ⟨digits, hdigits, heq | heq⟩ := Decimal.exists_digits_numeral i
  · rw [heq] at h
    exact isNameChar_of_isAsciiDigit (Decimal.isAsciiDigit_of_mem hdigits h)
  · rw [heq] at h
    rcases List.mem_cons.1 h with rfl | h
    · rfl
    · exact isNameChar_of_isAsciiDigit (Decimal.isAsciiDigit_of_mem hdigits h)

theorem not_isAsciiLetter_of_isAsciiDigit {c : Char} (h : isAsciiDigit c = true) :
    isAsciiLetter c = false := by
  have hle : ∀ a b : Char, a ≤ b ↔ a.toNat ≤ b.toNat := fun a b => UInt32.le_iff_toNat_le
  simp only [isAsciiDigit, isAsciiLetter, Bool.and_eq_true, decide_eq_true_eq, hle,
    Bool.or_eq_false_iff, Bool.and_eq_false_iff, decide_eq_false_iff_not] at h ⊢
  have hnine : '9'.toNat < 'A'.toNat ∧ '9'.toNat < 'a'.toNat := by decide
  omega

theorem isMark_of_isNameChar {c : Char} (h : isNameChar c = true) : isMark c = false :=
  isMark_of_class h rfl

theorem isQuote_of_isNameChar {c : Char} (h : isNameChar c = true) : isQuote c = false :=
  (isMark_eq_false_iff.1 (isMark_of_isNameChar h)).1

theorem isDigits_splitMinus_numeral (i : Int64) :
    Decimal.isDigits (splitMinus (Decimal.numeral i)).2 = true := by
  obtain ⟨digits, hdigits, heq | heq⟩ := Decimal.exists_digits_numeral i
  · obtain ⟨c, rest, rfl⟩ := List.exists_cons_of_ne_nil (Decimal.isDigits_iff.1 hdigits).1
    have hc := Decimal.isAsciiDigit_of_mem hdigits List.mem_cons_self
    rw [heq, splitMinus_cons (ne_of_class hc rfl)]
    exact hdigits
  · rw [heq]
    exact hdigits

theorem numeral_not_mem_keywords (i : Int64) : String.ofList (Decimal.numeral i) ∉ keywords := by
  obtain ⟨digits, hdigits, heq⟩ := Decimal.exists_digits_numeral i
  obtain ⟨c, hc⟩ := List.exists_mem_of_ne_nil digits (Decimal.isDigits_iff.1 hdigits).1
  have hmem : c ∈ Decimal.numeral i := by
    rcases heq with heq | heq
    · rwa [heq]
    · rw [heq]
      exact List.mem_cons_of_mem '-' hc
  have hletter := not_isAsciiLetter_of_isAsciiDigit (Decimal.isAsciiDigit_of_mem hdigits hc)
  exact not_mem_keywords hletter hmem

/-- Every integer of 64 bits is read from its numeral. -/
theorem constant?_numeral (i : Int64) :
    constant? (Decimal.numeral i) = some (.integer i) := by
  have hne := Decimal.numeral_ne_nil i
  have hquoted : quoted? (Decimal.numeral i) = none := by
    obtain ⟨c, rest, hcons⟩ := List.exists_cons_of_ne_nil hne
    have hc : c ∈ Decimal.numeral i := by
      rw [hcons]
      exact List.mem_cons_self
    rw [hcons, quoted?_cons_eq_none (isQuote_of_isNameChar (isNameChar_of_mem_numeral hc))]
  have hinteger : integer? (Decimal.numeral i) = some i := by
    rw [integer?, if_pos (isDigits_splitMinus_numeral i), Decimal.readInt64?_numeral]
  rw [constant?_eq hne (numeral_not_mem_keywords i), hquoted, hinteger]

/-! ### Ranges -/

/-- Text in brackets is no constant. -/
theorem constant?_bracket {opening closing : Char} (h : IsPair opening closing) (s : List Char) :
    constant? (opening :: s) = none := by
  have hopening : isQuote opening = false ∧ isAsciiLetter opening = false
      ∧ isAsciiDigit opening = false ∧ opening ≠ '-' := by
    rcases h with ⟨rfl, -⟩ | ⟨rfl, -⟩
    · decide
    · decide
  obtain ⟨hquote, hletter, hdigit, hminus⟩ := hopening
  refine constant?_eq_none (List.cons_ne_nil _ _) (not_mem_keywords hletter List.mem_cons_self)
    (quoted?_cons_eq_none hquote s) fun whole tail hs _ => ?_
  rw [splitMinus_cons hminus] at hs
  cases whole with
  | nil => rfl
  | cons c whole =>
    cases hs
    refine Bool.eq_false_iff.2 fun hdigits => ?_
    rw [Decimal.isAsciiDigit_of_mem hdigits List.mem_cons_self] at hdigit
    cases hdigit

theorem upperBound?_points {b : List Char} (hne : b ≠ []) (hb : ∀ c ∈ b, isBlank c = false) :
    upperBound? ('.' :: '.' :: b) = some b := by
  have hany : b.any isBlank = false := by
    refine List.any_eq_false.2 fun c hc => ?_
    rw [hb c hc]
    exact Bool.false_ne_true
  have hstart : trimStart ('.' :: '.' :: b) = '.' :: '.' :: b :=
    List.dropWhile_cons_of_neg (by decide)
  rw [upperBound?, hstart]
  simp only [trim_eq_self hb, hany, List.isEmpty_eq_false_iff.2 hne]
  rfl

/-- Without two points in front there is no second bound. -/
theorem upperBound?_eq_none {s : List Char} (h : ¬ ['.', '.'] <+: trimStart s) :
    upperBound? s = none := by
  unfold upperBound?
  split
  · next rest hs => exact absurd ⟨rest, hs.symm⟩ h
  · rfl

/-- The first bound of a range ends at the first two points. -/
theorem bounds?_points {a b : List Char} (hne : a ≠ []) (ha : ∀ c ∈ a, isBlank c = false)
    (hpoints : ¬ ['.', '.'] <:+: a ++ ['.']) (hne' : b ≠ []) (hb : ∀ c ∈ b, isBlank c = false) :
    bounds? (a ++ '.' :: '.' :: b) = some (a, b) := by
  induction a with
  | nil => exact absurd rfl hne
  | cons c a ih =>
    have hc := ha c List.mem_cons_self
    cases a with
    | nil =>
      rw [List.cons_append, List.nil_append, bounds?, hc, upperBound?_points hne' hb]
      rfl
    | cons d a =>
      have hrest : ¬ ['.', '.'] <:+: d :: a ++ ['.'] := fun h => hpoints (List.infix_cons h)
      have hd : ¬ isBlank d = true := Bool.eq_false_iff.1 (ha d (by simp))
      have hnone : upperBound? (d :: a ++ '.' :: '.' :: b) = none := by
        refine upperBound?_eq_none fun h => hrest ?_
        rw [List.cons_append, trimStart, List.dropWhile_cons_of_neg hd] at h
        -- two points in front of the rest would stand in front of the first bound already
        have hshort : d :: a ++ ['.'] <+: d :: (a ++ '.' :: '.' :: b) :=
          ⟨'.' :: b, by rw [List.append_assoc]; rfl⟩
        exact (List.prefix_of_prefix_length_le h hshort (by simp)).isInfix
      rw [List.cons_append, bounds?, hc, hnone,
        ih (List.cons_ne_nil d a) (fun c' h => ha c' (List.mem_cons_of_mem c h)) hrest]
      rfl

/-- A range is read bound by bound. -/
theorem parse_range {a b : List Char} (hne : a ≠ []) (ha : ∀ c ∈ a, isBlank c = false)
    (hpoints : ¬ ['.', '.'] <:+: a ++ ['.']) (hne' : b ≠ []) (hb : ∀ c ∈ b, isBlank c = false) :
    parse ('(' :: (a ++ '.' :: '.' :: b ++ [')'])) = (do
      let first ← parse a
      let last ← parse b
      return .range first last) := by
  have hpair : IsPair '(' ')' := .inr ⟨rfl, rfl⟩
  have hstart : trimStart (a ++ '.' :: '.' :: b) = a ++ '.' :: '.' :: b :=
    (Tight.of_forall hne ha).dropWhile_append _
  have hparts : rangeParts? ('(' :: (a ++ '.' :: '.' :: b ++ [')'])) = some (a, b) := by
    rw [rangeParts?, if_pos List.getLast?_concat, List.dropLast_concat, hstart,
      bounds?_points hne ha hpoints hne' hb]
  have htrim := (hpair.tight (a ++ '.' :: '.' :: b)).trim_eq
  rw [← htrim] at hparts
  refine parse_of_rangeParts? ?_ hparts
  rw [htrim, constant?_bracket hpair]

theorem rangeParts?_cons_eq_none {c : Char} (hc : c ≠ '(') (s : List Char) :
    rangeParts? (c :: s) = none := by
  unfold rangeParts?
  split
  · next heq =>
    cases heq
    exact absurd rfl hc
  · rfl

/-! ### Lists -/

/-- A list is read item by item. -/
theorem parse_array (inner : List Char) :
    parse ('[' :: (inner ++ [']'])) = array <$>
      (if (trim inner).isEmpty then [] else splitUnquoted ',' (trim inner)).mapM parse := by
  have hpair : IsPair '[' ']' := .inl ⟨rfl, rfl⟩
  have hitems : arrayItems? ('[' :: (inner ++ [']']))
      = some (if (trim inner).isEmpty then [] else splitUnquoted ',' (trim inner)) := by
    rw [arrayItems?, arrayInner?, if_pos List.getLast?_concat, List.dropLast_concat]
    rfl
  have htrim := (hpair.tight inner).trim_eq
  refine parse_of_arrayItems? ?_ ?_ ?_
  · rw [htrim, constant?_bracket hpair]
  · rw [htrim, rangeParts?_cons_eq_none (by decide)]
  · rw [htrim, hitems]

/-- Texts with commas between them are read one by one. -/
theorem mapM_parse_splitUnquoted {texts : List (List Char)} (hne : texts ≠ [])
    (h : ∀ t ∈ texts, Balanced (· != ',') t ∧ Tight t) :
    (splitUnquoted ',' ([',', ' '].intercalate texts)).mapM parse = texts.mapM parse := by
  have hsplit : (splitUnquoted ',' ([',', ' '].intercalate texts)).map trim = texts :=
    map_trim_splitUnquoted rfl rfl allBlank_nil allBlank_space hne h
  rw [← mapM_parse_trim, hsplit]

theorem arrayItems?_cons_eq_none {c : Char} (hc : c ≠ '[') (s : List Char) :
    arrayItems? (c :: s) = none := by
  unfold arrayItems? arrayInner?
  split
  · next heq =>
    cases heq
    exact absurd rfl hc
  · rfl

/-! ### Paths -/

/-- Where a name ends: behind it is nothing, or the next segment. -/
def StartsSegment (s : List Char) : Prop := ∀ c, s.head? = some c → c = '.' ∨ c = '['

theorem startsSegment_nil : StartsSegment [] := by
  intro c hc
  cases hc

variable {name root rest : List Char}

theorem StartsSegment.not_isNameChar (hrest : StartsSegment rest) :
    ∀ c ∈ rest.head?, isNameChar c = false := by
  intro c hc
  rcases hrest c hc with rfl | rfl
  · rfl
  · rfl

theorem takeWhile_name (hname : ∀ c ∈ name, isNameChar c = true) (hrest : StartsSegment rest) :
    (name ++ rest).takeWhile isNameChar = name :=
  takeWhile_run hname hrest.not_isNameChar

theorem dropWhile_name (hname : ∀ c ∈ name, isNameChar c = true) (hrest : StartsSegment rest) :
    (name ++ rest).dropWhile isNameChar = rest :=
  dropWhile_run hname hrest.not_isNameChar

theorem parseSegments_key (whole : String) (hne : name ≠ [])
    (hname : ∀ c ∈ name, isNameChar c = true) (hrest : StartsSegment rest) :
    parseSegments whole ('.' :: (name ++ rest)) =
      (.key (String.ofList name) :: ·) <$> parseSegments whole rest := by
  rw [parseSegments]
  simp only [takeWhile_name hname hrest, dropWhile_name hname hrest,
    List.isEmpty_eq_false_iff.2 hne]
  exact (map_eq_pure_bind _ _).symm

/-- An index in brackets ends at the bracket that belongs to the opening one. -/
theorem parseSegments_index (whole : String) {free : Char → Bool} {a : List Char}
    (ha : Balanced free a) (rest : List Char) :
    parseSegments whole ('[' :: (a ++ ']' :: rest)) = (do
      let index ← parse a
      let segments ← parseSegments whole rest
      return .index index :: segments) := by
  have hcut : cutBracket? (a ++ ']' :: rest) = some (a, rest) := by
    rw [cutBracket?, ha.cutBracketFrom?_append 0]
    simp [cutBracketFrom?]
  rw [parseSegments]
  split
  · next cut h =>
    rw [hcut] at h
    cases h
    rfl
  · next h =>
    rw [hcut] at h
    cases h

/-- The digits at the beginning of a path would be all of its root. -/
theorem isDigits_eq_false_of_append {whole tail : List Char}
    (hroot : ∀ c ∈ root, isNameChar c = true) (hdigits : Decimal.isDigits root = false)
    (hrest : StartsSegment rest) (heq : root ++ rest = whole ++ tail)
    (htail : tail = [] ∨ tail.head? = some '.') : Decimal.isDigits whole = false := by
  refine Bool.eq_false_iff.2 fun hwhole => ?_
  have hne : root ≠ whole := by
    rintro rfl
    rw [hwhole] at hdigits
    cases hdigits
  rcases List.append_eq_append_iff.1 heq with ⟨as, rfl, rfl⟩ | ⟨bs, rfl, rfl⟩
  · cases as with
    | nil => exact hne (List.append_nil root).symm
    | cons c as =>
      -- the segment behind the root begins with a digit
      have hc : isAsciiDigit c = true := Decimal.isAsciiDigit_of_mem hwhole (by simp)
      rcases hrest c rfl with rfl | rfl
      · exact absurd hc (by decide)
      · exact absurd hc (by decide)
  · cases bs with
    | nil => exact hne (List.append_nil whole)
    | cons c bs =>
      -- the point stands in the root
      have hc := hroot c (List.mem_append_right whole List.mem_cons_self)
      rcases htail with htail | htail
      · cases htail
      · cases htail
        exact absurd hc (by decide)

theorem splitMinus_append (hne : root ≠ []) (rest : List Char) :
    (splitMinus (root ++ rest)).2 = (splitMinus root).2 ++ rest := by
  cases root with
  | nil => exact absurd rfl hne
  | cons c root =>
    by_cases hc : c = '-'
    · rw [hc]
      rfl
    · rw [splitMinus_cons hc, List.cons_append, splitMinus_cons hc]

theorem splitMinus_subset (s : List Char) : (splitMinus s).2 ⊆ s := by
  unfold splitMinus
  split
  · exact List.subset_cons_self _ _
  · exact List.Subset.refl s

theorem exists_cons_path (hne : root ≠ []) (hroot : ∀ c ∈ root, isNameChar c = true)
    (rest : List Char) : ∃ c others, root ++ rest = c :: others ∧ isNameChar c = true := by
  obtain ⟨c, others, rfl⟩ := List.exists_cons_of_ne_nil hne
  exact ⟨c, others ++ rest, rfl, hroot c List.mem_cons_self⟩

/-- A path is no constant, where its root is no integer and is not all of it and a keyword. -/
theorem constant?_path (hne : root ≠ []) (hroot : ∀ c ∈ root, isNameChar c = true)
    (hdigits : Decimal.isDigits (splitMinus root).2 = false) (hrest : StartsSegment rest)
    (hbare : rest = [] → String.ofList root ∉ keywords) : constant? (root ++ rest) = none := by
  have hkeyword : String.ofList (root ++ rest) ∉ keywords := by
    cases rest with
    | nil =>
      rw [List.append_nil]
      exact hbare rfl
    | cons c rest =>
      have hmem : c ∈ root ++ c :: rest := List.mem_append_right root List.mem_cons_self
      rcases hrest c rfl with rfl | rfl
      · exact not_mem_keywords (by decide) hmem
      · exact not_mem_keywords (by decide) hmem
  have hquoted : quoted? (root ++ rest) = none := by
    obtain ⟨c, others, heq, hc⟩ := exists_cons_path hne hroot rest
    rw [heq, quoted?_cons_eq_none (isQuote_of_isNameChar hc)]
  refine constant?_eq_none (List.append_ne_nil_of_left_ne_nil hne rest) hkeyword hquoted
    fun whole tail heq htail => ?_
  rw [splitMinus_append hne] at heq
  exact isDigits_eq_false_of_append (fun c hc => hroot c (splitMinus_subset root hc)) hdigits hrest
    heq htail

/-- A path is its root, and the segments that are read behind it. -/
theorem parse_path {segments : List Segment} (hne : root ≠ [])
    (hroot : ∀ c ∈ root, isNameChar c = true) (hrest : StartsSegment rest)
    (hconstant : constant? (root ++ rest) = none) (htrim : trim (root ++ rest) = root ++ rest)
    (hsegments : parseSegments (String.ofList (root ++ rest)) rest = .ok segments) :
    parse (root ++ rest) =
      .ok (.path (String.ofList root) segments (String.ofList (root ++ rest))) := by
  obtain ⟨c, others, heq, hc⟩ := exists_cons_path hne hroot rest
  have hrange : rangeParts? (root ++ rest) = none := by
    rw [heq, rangeParts?_cons_eq_none (ne_of_class hc rfl)]
  have harray : arrayItems? (root ++ rest) = none := by
    rw [heq, arrayItems?_cons_eq_none (ne_of_class hc rfl)]
  rw [← htrim] at hconstant hrange harray
  rw [parse_eq_parsePath hconstant hrange harray, htrim, parsePath]
  simp only [takeWhile_name hroot hrest, dropWhile_name hroot hrest,
    List.isEmpty_eq_false_iff.2 hne, hsegments]
  rfl

/-- A name that is no constant is read as the path of it alone. -/
theorem parse_name (hne : name ≠ []) (hall : name.all isNameChar = true)
    (hconstant : constant? name = none) :
    parse name = .ok (.path (String.ofList name) [] (String.ofList name)) := by
  have hname : ∀ c ∈ name, isNameChar c = true := List.all_eq_true.1 hall
  have htrim : trim name = name := trim_eq_self fun c hc => not_isBlank_of_isNameChar (hname c hc)
  rw [← List.append_nil name] at hconstant htrim
  have hparse := parse_path hne hname startsSegment_nil hconstant htrim (by rw [parseSegments])
  rwa [List.append_nil] at hparse

/-- A name and a key are read as the path of one segment. -/
theorem parse_name_key {key : List Char} (hne : root ≠ []) (hroot : root.all isNameChar = true)
    (hkeyNe : key ≠ []) (hkey : key.all isNameChar = true)
    (hconstant : constant? (root ++ '.' :: key) = none) :
    parse (root ++ '.' :: key) = .ok (.path (String.ofList root) [.key (String.ofList key)]
      (String.ofList (root ++ '.' :: key))) := by
  have hrootName : ∀ c ∈ root, isNameChar c = true := List.all_eq_true.1 hroot
  have hkeyName : ∀ c ∈ key, isNameChar c = true := List.all_eq_true.1 hkey
  have hrest : StartsSegment ('.' :: key) := fun c hc => .inl (Option.some.inj hc).symm
  have htrim : trim (root ++ '.' :: key) = root ++ '.' :: key := by
    refine trim_eq_self fun c hc => ?_
    rcases List.mem_append.1 hc with hc | hc
    · exact not_isBlank_of_isNameChar (hrootName c hc)
    rcases List.mem_cons.1 hc with rfl | hc
    · rfl
    · exact not_isBlank_of_isNameChar (hkeyName c hc)
  have hsegments (whole : String) :
      parseSegments whole ('.' :: key) = .ok [.key (String.ofList key)] := by
    have hparse := parseSegments_key whole hkeyNe hkeyName startsSegment_nil
    rw [List.append_nil, parseSegments] at hparse
    exact hparse
  exact parse_path hne hrootName hrest hconstant htrim (hsegments _)

end Liquid.Expression
