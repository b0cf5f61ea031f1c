import Liquid.Proofs.Expression.Forms

/-!
# Expressions as they are written

An expression together with how it is written: with which quote a string stands, and which path a
text is. Reading the text gives the expression back, whatever is nested in it: the scanners that
find the end of an item, of an index or of a bound all pass over what the spelling of a part is.

- `Expression.Name`, `Expression.Root`, `Expression.Bound`, `Expression.Spelling`,
  `Expression.Step`: spellings. They hold the proofs that they can be written down.
- `Expression.Dotted`: names with points between them, as they stand in ranges.
- `Spelling.text`, `Spelling.expression`: the text of a spelling, and what it stands for.
- `Spelling.balanced`, `Spelling.tight`: the text closes its quotes and brackets, and begins and
  ends without blanks.
- `Spelling.parse_text`: the text is read as the expression.
-/

namespace Liquid.Expression

open Text

/-! ### Spellings -/

/-- A name in a path. -/
structure Name where
  /-- The characters of the name. -/
  text : List Char
  /-- It has one at least. -/
  ne_nil : text ≠ []
  /-- They are letters, digits, `_`, `-` and `?`. -/
  isNameChar : ∀ c ∈ text, isNameChar c = true

/-- A name that a path may begin with. -/
structure Root extends Name where
  /-- It is no integer: no digits with a minus in front or without. -/
  not_integer : Decimal.isDigits (splitMinus text).2 = false

/-- The name by itself is none of the keywords. -/
def Root.IsBare (root : Root) : Prop := String.ofList root.text ∉ keywords

/-- A bound of a range. -/
inductive Bound where
  /-- An integer. -/
  | integer (i : Int64)
  /-- A path that is made of names. -/
  | path (root : Root) (keys : List Name) (bare : keys = [] → root.IsBare)

mutual

/-- An expression as it is written. -/
inductive Spelling where
  /-- The word `nil`. -/
  | nil
  /-- One of the words `true` and `false`. -/
  | bool (b : Bool)
  /-- A decimal numeral. -/
  | integer (i : Int64)
  /-- A string in quotes that do not stand in it. -/
  | string (quote : Char) (s : List Char) (isQuote : isQuote quote = true) (closed : quote ∉ s)
  /-- A path of its root alone. -/
  | name (root : Root) (bare : root.IsBare)
  /-- A path with steps behind its root. -/
  | path (root : Root) (first : Step) (rest : List Step)
  /-- A range in parentheses. -/
  | range (first last : Bound)
  /-- A list in brackets. -/
  | array (items : List Spelling)

/-- A step of a path as it is written. -/
inductive Step where
  /-- A point, and a name. -/
  | key (name : Name)
  /-- An expression in brackets. -/
  | index (e : Spelling)

end

namespace Bound

/-- A bound as it is written. -/
def text : Bound → List Char
  | integer i => Decimal.numeral i
  | path root keys _ => root.text ++ keys.flatMap fun key => '.' :: key.text

/-- What a bound stands for. -/
def expression : Bound → Expression
  | integer i => .literal (.integer i)
  | path root keys bare =>
    .path (String.ofList root.text) (keys.map fun key => .key (String.ofList key.text))
      (String.ofList (path root keys bare).text)

end Bound

mutual

/-- An expression as it is written. -/
def Spelling.text : Spelling → List Char
  | .nil => ['n', 'i', 'l']
  | .bool true => ['t', 'r', 'u', 'e']
  | .bool false => ['f', 'a', 'l', 's', 'e']
  | .integer i => Decimal.numeral i
  | .string quote s _ _ => quote :: (s ++ [quote])
  | .name root _ => root.text
  | .path root first rest => root.text ++ (first.text ++ stepsText rest)
  | .range first last => '(' :: (first.text ++ '.' :: '.' :: last.text ++ [')'])
  | .array items => '[' :: ([',', ' '].intercalate (itemTexts items) ++ [']'])

/-- The texts of several expressions. -/
def itemTexts : List Spelling → List (List Char)
  | [] => []
  | e :: rest => e.text :: itemTexts rest

/-- A step of a path as it is written. -/
def Step.text : Step → List Char
  | .key name => '.' :: name.text
  | .index e => '[' :: (e.text ++ [']'])

/-- The steps of a path, one behind the other. -/
def stepsText : List Step → List Char
  | [] => []
  | step :: rest => step.text ++ stepsText rest

end

mutual

/-- What a text stands for. The markup that a path keeps is its text. -/
def Spelling.expression : Spelling → Expression
  | .nil => .literal .nil
  | .bool b => .literal (.bool b)
  | .integer i => .literal (.integer i)
  | .string _ s _ _ => .literal (.ofChars s)
  | .name root _ => .path (String.ofList root.text) [] (String.ofList root.text)
  | .path root first rest =>
    .path (String.ofList root.text) (first.segment :: segments rest)
      (String.ofList (root.text ++ (first.text ++ stepsText rest)))
  | .range first last => .range first.expression last.expression
  | .array items => .array (expressions items)

/-- What several texts stand for. -/
def expressions : List Spelling → List Expression
  | [] => []
  | e :: rest => e.expression :: expressions rest

/-- The segment that a step stands for. -/
def Step.segment : Step → Segment
  | .key name => .key (String.ofList name.text)
  | .index e => .index e.expression

/-- The segments that the steps of a path stand for. -/
def segments : List Step → List Segment
  | [] => []
  | step :: rest => step.segment :: segments rest

end

/-! ### Names -/

/-- The characters of expressions outside quotes and brackets. -/
def isPathChar (c : Char) : Bool := Expression.isNameChar c || c == '.'

theorem isMark_of_isPathChar {c : Char} (h : isPathChar c = true) : isMark c = false :=
  isMark_of_class h rfl

theorem balanced_of_isNameChar {s : List Char} (h : ∀ c ∈ s, Expression.isNameChar c = true) :
    Balanced isPathChar s :=
  .of_forall fun c hc => ⟨isMark_of_isNameChar (h c hc), by rw [isPathChar, h c hc, Bool.true_or]⟩

theorem Name.balanced (name : Name) : Balanced isPathChar name.text :=
  balanced_of_isNameChar name.isNameChar

theorem tight_of_isNameChar {s : List Char} (hne : s ≠ [])
    (h : ∀ c ∈ s, Expression.isNameChar c = true) : Tight s :=
  .of_forall hne fun c hc => not_isBlank_of_isNameChar (h c hc)

theorem Name.tight (name : Name) : Tight name.text :=
  tight_of_isNameChar name.ne_nil name.isNameChar

theorem not_isBlank_of_isPathChar {c : Char} (h : isPathChar c = true) : isBlank c = false := by
  rw [isPathChar, Bool.or_eq_true, beq_iff_eq] at h
  rcases h with hname | rfl
  · exact not_isBlank_of_isNameChar hname
  · rfl

/-! ### Names with points -/

/-- A run of characters without points can stand in front of text without two of them in a row. -/
theorem not_points_append {n s : List Char} (hn : ∀ c ∈ n, c ≠ '.')
    (hs : ¬ ['.', '.'] <:+: s) : ¬ ['.', '.'] <:+: n ++ s := by
  induction n with
  | nil => exact hs
  | cons c n ih =>
    intro h
    rcases List.infix_cons_iff.1 h with h | h
    · exact hn c List.mem_cons_self (List.cons_prefix_cons.1 h).1.symm
    · exact ih (fun c' hc' => hn c' (List.mem_cons_of_mem c hc')) h

theorem Name.ne_point (name : Name) : ∀ c ∈ name.text, c ≠ '.' := fun c hc =>
  ne_of_class (name.isNameChar c hc) rfl

/-- Behind each point in a path of names stands a name. -/
theorem not_points_keys (keys : List Name) :
    ¬ ['.', '.'] <:+: (keys.flatMap fun key => '.' :: key.text) ++ ['.'] := by
  induction keys with
  | nil =>
    intro h
    exact absurd h.length_le (by decide)
  | cons key keys ih =>
    have hrest := not_points_append key.ne_point ih
    obtain ⟨c, others, heq⟩ := List.exists_cons_of_ne_nil key.ne_nil
    have hc : c ≠ '.' := key.ne_point c (by rw [heq]; exact List.mem_cons_self)
    rw [List.flatMap_cons, List.append_assoc, List.cons_append, List.infix_cons_iff, not_or]
    refine ⟨fun h => ?_, hrest⟩
    rw [heq] at h
    exact hc (List.cons_prefix_cons.1 (List.cons_prefix_cons.1 h).2).1.symm

/-- Names with points between them. An integer is such a name by itself. -/
structure Dotted where
  /-- The first name. -/
  first : Name
  /-- The names behind it. -/
  rest : List Name

namespace Dotted

/-- The names as they are written. -/
def text (d : Dotted) : List Char := d.first.text ++ d.rest.flatMap fun key => '.' :: key.text

theorem ne_nil (d : Dotted) : d.text ≠ [] := List.append_ne_nil_of_left_ne_nil d.first.ne_nil _

theorem isPathChar_of_mem (d : Dotted) : ∀ c ∈ d.text, isPathChar c = true := by
  intro c hc
  rcases List.mem_append.1 hc with hc | hc
  · rw [isPathChar, d.first.isNameChar c hc, Bool.true_or]
  · obtain ⟨key, -, hc⟩ := List.mem_flatMap.1 hc
    rcases List.mem_cons.1 hc with rfl | hc
    · rfl
    · rw [isPathChar, key.isNameChar c hc, Bool.true_or]

theorem not_isBlank (d : Dotted) : ∀ c ∈ d.text, isBlank c = false := fun c hc =>
  not_isBlank_of_isPathChar (d.isPathChar_of_mem c hc)

theorem not_points (d : Dotted) : ¬ ['.', '.'] <:+: d.text ++ ['.'] := by
  rw [text, List.append_assoc]
  exact not_points_append d.first.ne_point (not_points_keys d.rest)

end Dotted

/-! ### Bounds -/

namespace Bound

/-- Bounds hold the characters of names and points. -/
theorem isPathChar_of_mem (b : Bound) : ∀ c ∈ b.text, isPathChar c = true := by
  cases b with
  | integer i =>
    intro c hc
    rw [isPathChar, isNameChar_of_mem_numeral hc, Bool.true_or]
  | path root keys bare => exact Dotted.isPathChar_of_mem ⟨root.toName, keys⟩

theorem ne_nil (b : Bound) : b.text ≠ [] := by
  cases b with
  | integer i => exact Decimal.numeral_ne_nil i
  | path root keys bare => exact Dotted.ne_nil ⟨root.toName, keys⟩

theorem not_isBlank (b : Bound) : ∀ c ∈ b.text, isBlank c = false := fun c hc =>
  not_isBlank_of_isPathChar (b.isPathChar_of_mem c hc)

theorem not_points (b : Bound) : ¬ ['.', '.'] <:+: b.text ++ ['.'] := by
  cases b with
  | integer i =>
    refine not_points_append (fun c hc => ne_of_class (isNameChar_of_mem_numeral hc) rfl) ?_
    intro h
    exact absurd h.length_le (by decide)
  | path root keys bare => exact Dotted.not_points ⟨root.toName, keys⟩

theorem startsSegment_keys (keys : List Name) :
    StartsSegment (keys.flatMap fun key => '.' :: key.text) := by
  cases keys with
  | nil => exact startsSegment_nil
  | cons key keys =>
    intro c hc
    cases hc
    exact .inl rfl

theorem parseSegments_keys (whole : String) (keys : List Name) :
    parseSegments whole (keys.flatMap fun key => '.' :: key.text) =
      .ok (keys.map fun key => .key (String.ofList key.text)) := by
  induction keys with
  | nil =>
    rw [List.flatMap_nil, parseSegments]
    rfl
  | cons key keys ih =>
    rw [List.flatMap_cons, List.cons_append,
      parseSegments_key whole key.ne_nil key.isNameChar (startsSegment_keys keys), ih]
    rfl

theorem parse_text (b : Bound) : parse b.text = .ok b.expression := by
  have htrim : trim b.text = b.text := trim_eq_self b.not_isBlank
  cases b with
  | integer i =>
    refine parse_of_constant? ?_
    rw [htrim]
    exact constant?_numeral i
  | path root keys bare =>
    have hbare : (keys.flatMap fun key => '.' :: key.text) = [] → root.IsBare := by
      intro hnil
      refine bare ?_
      cases keys with
      | nil => rfl
      | cons key keys => cases hnil
    have hstarts := startsSegment_keys keys
    exact parse_path root.ne_nil root.isNameChar hstarts
      (constant?_path root.ne_nil root.isNameChar root.not_integer hstarts hbare) htrim
      (parseSegments_keys _ keys)

end Bound

/-! ### The texts of spellings -/

theorem Step.text_eq_cons (step : Step) :
    ∃ c rest, step.text = c :: rest ∧ (c = '.' ∨ c = '[') := by
  cases step with
  | key name =>
    rw [text]
    exact ⟨'.', name.text, rfl, .inl rfl⟩
  | index e =>
    rw [text]
    exact ⟨'[', e.text ++ [']'], rfl, .inr rfl⟩

theorem Step.startsSegment (step : Step) (s : List Char) : StartsSegment (step.text ++ s) := by
  obtain ⟨c, rest, heq, hc⟩ := step.text_eq_cons
  intro c' hc'
  rw [heq] at hc'
  cases hc'
  exact hc

theorem startsSegment_steps (steps : List Step) : StartsSegment (stepsText steps) := by
  cases steps with
  | nil =>
    rw [stepsText]
    exact startsSegment_nil
  | cons step steps =>
    rw [stepsText]
    exact step.startsSegment _

mutual

/-- An expression closes its quotes and brackets. Outside of them are names and points only, and so
none of the characters that markup is split at. -/
theorem Spelling.balanced : (e : Spelling) → Balanced isPathChar e.text
  | .nil => by
    rw [Spelling.text]
    exact balanced_of_isNameChar (List.all_eq_true.1 rfl)
  | .bool true => by
    rw [Spelling.text]
    exact balanced_of_isNameChar (List.all_eq_true.1 rfl)
  | .bool false => by
    rw [Spelling.text]
    exact balanced_of_isNameChar (List.all_eq_true.1 rfl)
  | .integer i => by
    rw [Spelling.text]
    exact balanced_of_isNameChar fun c hc => isNameChar_of_mem_numeral hc
  | .string quote s hquote hclosed => by
    rw [Spelling.text]
    exact .quote hquote hclosed
  | .name root bare => by
    rw [Spelling.text]
    exact root.balanced
  | .path root first rest => by
    rw [Spelling.text]
    exact root.balanced.append (first.balanced.append (balanced_steps rest))
  | .range first last => by
    rw [Spelling.text]
    have hbound : ∀ b : Bound, Balanced (fun _ => true) b.text := fun b =>
      .of_forall fun c hc => ⟨isMark_of_isPathChar (b.isPathChar_of_mem c hc), rfl⟩
    exact .enclose (.inr ⟨rfl, rfl⟩)
      ((hbound first).append (.char rfl rfl (.char rfl rfl (hbound last))))
  | .array items => by
    rw [Spelling.text]
    have hgap : Balanced (fun _ => true) [',', ' '] := .char rfl rfl (.char rfl rfl .nil)
    exact .enclose (.inl ⟨rfl, rfl⟩)
      (hgap.intercalate fun t ht => (balanced_items items t ht).mono fun _ _ => rfl)

theorem balanced_items : (items : List Spelling) → ∀ t ∈ itemTexts items, Balanced isPathChar t
  | [], t, ht => by
    rw [itemTexts] at ht
    cases ht
  | e :: rest, t, ht => by
    rw [itemTexts] at ht
    rcases List.mem_cons.1 ht with rfl | ht
    · exact e.balanced
    · exact balanced_items rest t ht

theorem Step.balanced : (step : Step) → Balanced isPathChar step.text
  | .key name => by
    rw [Step.text]
    exact .char rfl rfl name.balanced
  | .index e => by
    rw [Step.text]
    exact .enclose (.inl ⟨rfl, rfl⟩) (e.balanced.mono fun _ _ => rfl)

theorem balanced_steps : (steps : List Step) → Balanced isPathChar (stepsText steps)
  | [] => by
    rw [stepsText]
    exact .nil
  | step :: rest => by
    rw [stepsText]
    exact step.balanced.append (balanced_steps rest)

end

theorem Step.tight (step : Step) : Tight step.text := by
  cases step with
  | key name =>
    rw [text]
    exact (Tight.singleton (c := '.') rfl).append name.tight
  | index e =>
    rw [text]
    exact IsPair.tight (.inl ⟨rfl, rfl⟩) e.text

theorem tight_steps (first : Step) (rest : List Step) : Tight (first.text ++ stepsText rest) := by
  induction rest generalizing first with
  | nil =>
    rw [stepsText, List.append_nil]
    exact first.tight
  | cons next rest ih =>
    rw [stepsText]
    exact first.tight.append (ih next)

theorem Spelling.tight (e : Spelling) : Tight e.text := by
  have hword : ∀ s : List Char, s ≠ [] → (∀ c ∈ s, Expression.isNameChar c = true) → Tight s :=
    fun s => tight_of_isNameChar
  cases e with
  | nil =>
    rw [text]
    exact hword _ (List.cons_ne_nil _ _) (List.all_eq_true.1 rfl)
  | bool b =>
    cases b with
    | true =>
      rw [text]
      exact hword _ (List.cons_ne_nil _ _) (List.all_eq_true.1 rfl)
    | false =>
      rw [text]
      exact hword _ (List.cons_ne_nil _ _) (List.all_eq_true.1 rfl)
  | integer i =>
    rw [text]
    exact hword _ (Decimal.numeral_ne_nil i) fun c hc => isNameChar_of_mem_numeral hc
  | string quote s hquote hclosed =>
    rw [text]
    have hblank := not_isBlank_of_isQuote hquote
    exact (Tight.singleton hblank).append_append s (Tight.singleton hblank)
  | name root bare =>
    rw [text]
    exact root.tight
  | path root first rest =>
    rw [text]
    exact root.tight.append (tight_steps first rest)
  | range first last =>
    rw [text]
    exact IsPair.tight (.inr ⟨rfl, rfl⟩) _
  | array items =>
    rw [text]
    exact IsPair.tight (.inl ⟨rfl, rfl⟩) _

theorem tight_items (items : List Spelling) : ∀ t ∈ itemTexts items, Tight t := by
  induction items with
  | nil =>
    intro t ht
    rw [itemTexts] at ht
    cases ht
  | cons e rest ih =>
    intro t ht
    rw [itemTexts] at ht
    rcases List.mem_cons.1 ht with rfl | ht
    · exact e.tight
    · exact ih t ht

theorem itemTexts_ne_nil {items : List Spelling} (h : items ≠ []) : itemTexts items ≠ [] := by
  cases items with
  | nil => exact absurd rfl h
  | cons e rest =>
    rw [itemTexts]
    exact List.cons_ne_nil _ _

theorem tight_intercalate_items {items : List Spelling} (h : items ≠ []) :
    Tight ([',', ' '].intercalate (itemTexts items)) :=
  tight_intercalate _ (itemTexts_ne_nil h) (tight_items items)

/-- Separators other than points stand between expressions only. -/
theorem balanced_ne {s : List Char} (h : Balanced isPathChar s) {sep : Char}
    (hsep : isPathChar sep = false) : Balanced (· != sep) s := by
  refine h.mono fun c hc => bne_iff_ne.2 ?_
  rintro rfl
  rw [hc] at hsep
  cases hsep

/-- Items with commas between them are split at these commas. -/
theorem mapM_parse_items {items : List Spelling} (hne : items ≠ []) :
    (splitUnquoted ',' ([',', ' '].intercalate (itemTexts items))).mapM parse
      = (itemTexts items).mapM parse :=
  mapM_parse_splitUnquoted (itemTexts_ne_nil hne) fun t ht =>
    ⟨balanced_ne (balanced_items items t ht) rfl, tight_items items t ht⟩

/-! ### Reading the texts -/

mutual

/-- The text of a spelling is read as the expression that it stands for. -/
theorem Spelling.parse_text : (e : Spelling) → parse e.text = .ok e.expression
  | .nil => by
    rw [Spelling.text, Spelling.expression]
    exact parse_of_constant? rfl
  | .bool true => by
    rw [Spelling.text, Spelling.expression]
    exact parse_of_constant? rfl
  | .bool false => by
    rw [Spelling.text, Spelling.expression]
    exact parse_of_constant? rfl
  | .integer i => by
    rw [Spelling.text, Spelling.expression]
    exact (Bound.integer i).parse_text
  | .string quote s hquote hclosed => by
    have htrim := (Spelling.string quote s hquote hclosed).tight.trim_eq
    rw [Spelling.text] at htrim ⊢
    rw [Spelling.expression]
    refine parse_of_constant? ?_
    rw [htrim]
    exact constant?_quoted hquote s
  | .name root bare => by
    have hparse := (Bound.path root [] fun _ => bare).parse_text
    simp only [Bound.text, Bound.expression, List.flatMap_nil, List.append_nil, List.map_nil]
      at hparse
    rw [Spelling.text, Spelling.expression]
    exact hparse
  | .path root first rest => by
    have htrim := (Spelling.path root first rest).tight.trim_eq
    rw [Spelling.text] at htrim ⊢
    rw [Spelling.expression]
    have hstarts := first.startsSegment (stepsText rest)
    refine parse_path root.ne_nil root.isNameChar hstarts ?_ htrim ?_
    · refine constant?_path root.ne_nil root.isNameChar root.not_integer hstarts fun hnil => ?_
      exact absurd hnil (tight_steps first rest).ne_nil
    · rw [first.parseSegments_text _ (startsSegment_steps rest), parseSegments_steps _ rest]
      rfl
  | .range first last => by
    rw [Spelling.text, Spelling.expression, parse_range first.ne_nil first.not_isBlank
      first.not_points last.ne_nil last.not_isBlank, first.parse_text, last.parse_text]
    rfl
  | .array items => by
    have hitems := mapM_parse_itemTexts items
    rw [Spelling.text, Spelling.expression, parse_array]
    by_cases hne : items = []
    · rw [hne, itemTexts, expressions]
      rfl
    · have htight := tight_intercalate_items hne
      have hinner : ¬ ([',', ' '].intercalate (itemTexts items)).isEmpty = true := fun h =>
        htight.ne_nil (List.isEmpty_iff.1 h)
      rw [htight.trim_eq, if_neg hinner, mapM_parse_items hne, hitems]
      rfl

theorem mapM_parse_itemTexts :
    (items : List Spelling) → (itemTexts items).mapM parse = .ok (expressions items)
  | [] => by
    rw [itemTexts, expressions]
    rfl
  | e :: rest => by
    rw [itemTexts, expressions, List.mapM_cons, e.parse_text, mapM_parse_itemTexts rest]
    rfl

/-- A step is read with whatever steps stand behind it. -/
theorem Step.parseSegments_text (whole : String) :
    (step : Step) → {rest : List Char} → StartsSegment rest →
      parseSegments whole (step.text ++ rest) = (step.segment :: ·) <$> parseSegments whole rest
  | .key name, rest, hrest => by
    rw [Step.text, Step.segment]
    exact parseSegments_key whole name.ne_nil name.isNameChar hrest
  | .index e, rest, _ => by
    rw [Step.text, Step.segment, List.cons_append, List.append_assoc, List.singleton_append,
      parseSegments_index whole e.balanced, e.parse_text, ok_bind]
    exact (map_eq_pure_bind (fun others => Segment.index e.expression :: others) _).symm

theorem parseSegments_steps (whole : String) :
    (steps : List Step) → parseSegments whole (stepsText steps) = .ok (segments steps)
  | [] => by
    rw [stepsText, segments, parseSegments]
  | step :: rest => by
    rw [stepsText, segments, step.parseSegments_text whole (startsSegment_steps rest),
      parseSegments_steps whole rest]
    rfl

end

end Liquid.Expression
