import Liquid.Token
import Liquid.Proofs.Text.Search

/-!
# Canonical token lists

Which lists of tokens are the tokens of a text, said without the scan, by what may stand in a token
and behind it. Texts and canonical token lists are then in bijection.

- `Token.sources`: the text that tokens were cut from.
- `Token.Fits`: what a token must satisfy in front of given tokens.
- `Token.Canonical`: every token of a list fits in front of those behind it.
- `Token.tokenize_eq_iff`: a text has given tokens exactly where these are canonical and their
  sources make up the text.

A literal in front of other tokens is the delicate case: it must not hold the beginning of an
opening pair whose end stands in the next token. `NoOpener` says so of a text in front of another,
and `noOpener_iff` reads it off the text alone.
-/

namespace Liquid.Token

open Text

/-- The text that tokens were cut from. -/
def sources (tokens : List Token) : List Char := tokens.flatMap fun t => t.source.toList

/-- Whether a token is an opening pair that nothing closes. -/
def IsBareOpener (t : Token) : Prop :=
  t = literal (String.ofList tagOpener) ∨ t = literal (String.ofList outputOpener)

instance decidableIsBareOpener : DecidablePred IsBareOpener :=
  fun _ => inferInstanceAs (Decidable (_ ∨ _))

/-- Whether a token is a literal that is no bare opening pair. -/
def IsText (t : Token) : Prop := (∃ text, t = literal text) ∧ ¬ t.IsBareOpener

/-- What a token must satisfy in front of the tokens `rest`. -/
def Fits (t : Token) (rest : List Token) : Prop :=
  match t with
  | tag markup => ¬ tagCloser <:+: markup.toList
  | output markup => ¬ outputCloser <:+: markup.toList ∧ ¬ ['}'] <:+ markup.toList
  | literal text =>
    if text.toList = tagOpener then ¬ tagCloser <:+: sources rest
    else if text.toList = outputOpener then ¬ outputCloser <:+: sources rest
    else text ≠ ""
      ∧ ¬ tagOpener <:+: text.toList
      ∧ ¬ outputOpener <:+: text.toList
      ∧ (rest ≠ [] → ¬ ['{'] <:+ text.toList)
      ∧ ∀ next ∈ rest.head?, ¬ next.IsText

/-- Every token fits in front of those behind it. -/
def Canonical : List Token → Prop
  | [] => True
  | t :: rest => t.Fits rest ∧ Canonical rest

@[simp] theorem sources_nil : sources [] = [] := rfl

@[simp] theorem sources_cons (t : Token) (rest : List Token) :
    sources (t :: rest) = t.source.toList ++ sources rest := List.flatMap_cons

theorem toList_join_source (tokens : List Token) :
    (String.join (tokens.map source)).toList = sources tokens := by
  induction tokens with
  | nil => rfl
  | cons t rest ih => rw [List.map_cons, String.join_cons, String.toList_append, ih, sources_cons]

/-! ### Where a literal ends -/

theorem opens_eq_true {s : List Char} :
    opens s = true ↔ tagOpener <+: s ∨ outputOpener <+: s := by
  rw [opens, Bool.or_eq_true, Option.isSome_iff_ne_none, Option.isSome_iff_ne_none, ne_eq, ne_eq,
    after?_eq_none, after?_eq_none, Decidable.not_not, Decidable.not_not]

/-- No markup opens within `a` when `b` stands behind it. -/
def NoOpener (a b : List Char) : Prop := ∀ t, t <:+ a → t ≠ [] → opens (t ++ b) = false

theorem noOpener_nil (b : List Char) : NoOpener [] b := by
  intro t ht hne
  exact absurd (List.suffix_nil.1 ht) hne

theorem noOpener_cons {c : Char} {a b : List Char} :
    NoOpener (c :: a) b ↔ opens (c :: (a ++ b)) = false ∧ NoOpener a b := by
  constructor
  · intro h
    exact ⟨h (c :: a) List.suffix_rfl (by simp), fun t ht => h t (ht.trans (List.suffix_cons c a))⟩
  · rintro ⟨hc, h⟩ t ht hne
    rcases List.suffix_cons_iff.1 ht with rfl | ht
    · exact hc
    · exact h t ht hne

/-- A literal span ends where a markup opens, or at the end of the text, and no earlier. -/
theorem spanLiteral_spec (s : List Char) :
    NoOpener (spanLiteral s).1 (spanLiteral s).2
      ∧ ((spanLiteral s).2 = [] ∨ opens (spanLiteral s).2 = true) := by
  induction s with
  | nil => exact ⟨noOpener_nil _, .inl rfl⟩
  | cons c rest ih =>
    rw [spanLiteral]
    by_cases hc : opens (c :: rest) = true
    · rw [if_pos hc]
      exact ⟨noOpener_nil _, .inr hc⟩
    · rw [if_neg hc]
      refine ⟨noOpener_cons.2 ⟨?_, ih.1⟩, ih.2⟩
      rw [spanLiteral_append]
      exact Bool.eq_false_iff.2 hc

theorem spanLiteral_eq {a b : List Char} (h : NoOpener a b) (hb : b = [] ∨ opens b = true) :
    spanLiteral (a ++ b) = (a, b) := by
  induction a with
  | nil =>
    rcases hb with rfl | hb
    · rfl
    · cases b with
      | nil => rfl
      | cons c rest => rw [List.nil_append, spanLiteral, if_pos hb]
  | cons c a ih =>
    obtain ⟨hc, ha⟩ := noOpener_cons.1 h
    rw [List.cons_append, spanLiteral, hc, if_neg Bool.false_ne_true, ih ha]

theorem head_of_opens {b : List Char} (h : opens b = true) : ∃ rest, b = '{' :: rest := by
  rcases opens_eq_true.1 h with ⟨rest, rfl⟩ | ⟨rest, rfl⟩
  · exact ⟨'%' :: rest, rfl⟩
  · exact ⟨'{' :: rest, rfl⟩

/-- A pair that begins a text `t ++ b` begins `t`, or else its second character begins `b`. -/
theorem pair_prefix_append {x y : Char} {t b : List Char} (hne : t ≠ [])
    (h : [x, y] <+: t ++ b) : [x, y] <+: t ∨ t = [x] ∧ b ≠ [] := by
  match t, hne with
  | [z], _ =>
    obtain ⟨rfl, hb⟩ := List.cons_prefix_cons.1 h
    refine .inr ⟨rfl, fun hnil => ?_⟩
    rw [hnil] at hb
    simp at hb
  | z :: w :: t, _ =>
    obtain ⟨rfl, hb⟩ := List.cons_prefix_cons.1 h
    obtain ⟨rfl, -⟩ := List.cons_prefix_cons.1 hb
    exact .inl ⟨t, rfl⟩

/-- In front of a text that is empty or opens a markup, no markup opens within a text that holds no
opening pair and does not end with half of one. -/
theorem noOpener_iff {a b : List Char} (hb : b = [] ∨ opens b = true) :
    NoOpener a b ↔
      ¬ tagOpener <:+: a ∧ ¬ outputOpener <:+: a ∧ (b ≠ [] → ¬ ['{'] <:+ a) := by
  constructor
  · intro h
    refine ⟨?_, ?_, ?_⟩
    · -- a pair in `a` opens a markup, and a suffix of `a` begins with it
      rintro ⟨pre, post, rfl⟩
      have ho : opens (tagOpener ++ post ++ b) = true :=
        opens_eq_true.2 (.inl ⟨post ++ b, by simp⟩)
      rw [h (tagOpener ++ post) ⟨pre, by simp⟩ (by simp [tagOpener])] at ho
      cases ho
    · rintro ⟨pre, post, rfl⟩
      have ho : opens (outputOpener ++ post ++ b) = true :=
        opens_eq_true.2 (.inr ⟨post ++ b, by simp⟩)
      rw [h (outputOpener ++ post) ⟨pre, by simp⟩ (by simp [outputOpener])] at ho
      cases ho
    · intro hne hsuf
      -- the last character of `a` and the first of `b` are an opening pair
      obtain ⟨rest, rfl⟩ := head_of_opens (hb.resolve_left hne)
      have ho : opens (['{'] ++ '{' :: rest) = true := opens_eq_true.2 (.inr ⟨rest, rfl⟩)
      rw [h ['{'] hsuf (by simp)] at ho
      cases ho
  · rintro ⟨htag, hout, hlast⟩ t ht hne
    rw [Bool.eq_false_iff]
    intro ho
    -- the pair stands in `t`, or half of it at the end of `t`
    rcases opens_eq_true.1 ho with hpre | hpre
    · rcases pair_prefix_append hne hpre with hp | ⟨rfl, hbne⟩
      · exact htag (hp.isInfix.trans ht.isInfix)
      · exact hlast hbne ht
    · rcases pair_prefix_append hne hpre with hp | ⟨rfl, hbne⟩
      · exact hout (hp.isInfix.trans ht.isInfix)
      · exact hlast hbne ht

/-! ### One step of the scan -/

theorem scan_tagOpener (rest : List Char) :
    scan (tagOpener ++ rest) =
      match cutAt? tagCloser rest with
      | some cut => tag (String.ofList cut.1) :: scan cut.2
      | none => literal (String.ofList tagOpener) :: scan rest := by
  show scan ('{' :: '%' :: rest) = _
  rw [scan]
  split <;> rename_i h <;> rw [h]

theorem scan_outputOpener (rest : List Char) :
    scan (outputOpener ++ rest) =
      match cutAt? outputCloser rest with
      | some cut => output (String.ofList cut.1) :: scan cut.2
      | none => literal (String.ofList outputOpener) :: scan rest := by
  show scan ('{' :: '{' :: rest) = _
  rw [scan]
  split <;> rename_i h <;> rw [h]

theorem scan_literal {c : Char} {a b : List Char} (h : NoOpener (c :: a) b)
    (hb : b = [] ∨ opens b = true) :
    scan (c :: (a ++ b)) = literal (String.ofList (c :: a)) :: scan b := by
  obtain ⟨hc, ha⟩ := noOpener_cons.1 h
  -- the rules of the scan for a tag and for an output do not apply
  have hnot : ∀ y rest, (y = '%' ∨ y = '{') → c = '{' → a ++ b = y :: rest → False := by
    rintro y rest hy rfl heq
    rw [heq] at hc
    have ho : opens ('{' :: y :: rest) = true := by
      rcases hy with rfl | rfl
      · exact opens_eq_true.2 (.inl ⟨rest, rfl⟩)
      · exact opens_eq_true.2 (.inr ⟨rest, rfl⟩)
    rw [ho] at hc
    cases hc
  rw [scan, spanLiteral_eq ha hb]
  · exact fun rest => hnot '%' rest (.inl rfl)
  · exact fun rest => hnot '{' rest (.inr rfl)

/-! ### The tokens of a text are canonical -/

theorem isBareOpener_tagOpener : (literal (String.ofList tagOpener)).IsBareOpener := .inl rfl

theorem isBareOpener_outputOpener : (literal (String.ofList outputOpener)).IsBareOpener := .inr rfl

theorem isBareOpener_literal_iff {text : String} :
    (literal text).IsBareOpener ↔ text.toList = outputOpener ∨ text.toList = tagOpener := by
  rw [IsBareOpener, literal.injEq, literal.injEq, ← String.toList_inj, ← String.toList_inj,
    String.toList_ofList, String.toList_ofList]
  exact Or.comm

theorem not_isText_tag (markup : String) : ¬ (tag markup).IsText := by
  rintro ⟨⟨text, h⟩, -⟩
  cases h

theorem not_isText_output (markup : String) : ¬ (output markup).IsText := by
  rintro ⟨⟨text, h⟩, -⟩
  cases h

/-- Behind a literal span the scan goes on with a token that is no text. -/
theorem not_isText_head_scan {b : List Char} (hb : b = [] ∨ opens b = true) :
    ∀ next ∈ (scan b).head?, ¬ next.IsText := by
  intro next hnext
  rcases hb with rfl | hb
  · rw [scan] at hnext
    cases hnext
  · rcases opens_eq_true.1 hb with ⟨rest, rfl⟩ | ⟨rest, rfl⟩
    · rw [scan_tagOpener] at hnext
      split at hnext <;> cases hnext
      · exact not_isText_tag _
      · exact fun h => h.2 isBareOpener_tagOpener
    · rw [scan_outputOpener] at hnext
      split at hnext <;> cases hnext
      · exact not_isText_output _
      · exact fun h => h.2 isBareOpener_outputOpener

/-- A pair in a text with one more character is in the text, or that character completes it. -/
theorem pair_infix_concat {x y z : Char} {a : List Char} (h : [x, y] <:+: a ++ [z]) :
    [x, y] <:+: a ∨ y = z ∧ [x] <:+ a := by
  rcases List.infix_concat_iff.1 h with h | h
  · rcases List.suffix_concat_iff.1 h with h | ⟨t, ht, hsuf⟩
    · cases h
    · obtain ⟨rfl, hy⟩ := List.append_inj' (show [x] ++ [y] = t ++ [z] from ht) rfl
      exact .inr ⟨by simpa using hy, hsuf⟩
  · exact .inl h

theorem fits_tag {a b : List Char} {rest : List Token} {s : List Char}
    (h : cutAt? tagCloser s = some (a, b)) : (tag (String.ofList a)).Fits rest := by
  have hfirst := ((cutAt?_eq_some_iff (by simp [tagCloser])).1 h).2
  show ¬ tagCloser <:+: (String.ofList a).toList
  rw [String.toList_ofList]
  exact fun hin => hfirst (List.infix_append_of_infix_left hin)

theorem fits_output {a b : List Char} {rest : List Token} {s : List Char}
    (h : cutAt? outputCloser s = some (a, b)) : (output (String.ofList a)).Fits rest := by
  have hfirst := ((cutAt?_eq_some_iff (by simp [outputCloser])).1 h).2
  show ¬ outputCloser <:+: (String.ofList a).toList ∧ ¬ ['}'] <:+ (String.ofList a).toList
  rw [String.toList_ofList]
  refine ⟨fun hin => hfirst (List.infix_append_of_infix_left hin), ?_⟩
  -- a brace at the end of the markup and the first brace of the pair would be an earlier pair
  rintro ⟨pre, rfl⟩
  exact hfirst ⟨pre, [], by simp [outputCloser]⟩

theorem fits_literal {c : Char} {a b : List Char} (h : NoOpener (c :: a) b)
    (hb : b = [] ∨ opens b = true) : (literal (String.ofList (c :: a))).Fits (scan b) := by
  obtain ⟨htag, hout, hlast⟩ := (noOpener_iff hb).1 h
  simp only [Fits, String.toList_ofList]
  have hne_tag : c :: a ≠ tagOpener := by
    intro heq
    rw [heq] at htag
    exact htag List.infix_rfl
  have hne_out : c :: a ≠ outputOpener := by
    intro heq
    rw [heq] at hout
    exact hout List.infix_rfl
  rw [if_neg hne_tag, if_neg hne_out]
  refine ⟨by simp, htag, hout, fun hne => hlast ?_, not_isText_head_scan hb⟩
  rintro rfl
  exact hne (by rw [scan])

/-- The tokens of a text are canonical. -/
theorem canonical_scan (s : List Char) : Canonical (scan s) := by
  fun_induction scan s with
  | case1 => trivial
  | case2 rest cut hcut ih => exact ⟨fits_tag hcut, ih⟩
  | case3 rest hcut ih =>
    refine ⟨?_, ih⟩
    simp only [Fits, String.toList_ofList, if_true]
    rw [sources, source_scan]
    exact cutAt?_eq_none_iff.1 hcut
  | case4 rest cut hcut ih => exact ⟨fits_output hcut, ih⟩
  | case5 rest hcut ih =>
    refine ⟨?_, ih⟩
    have hne : outputOpener ≠ tagOpener := by decide
    simp only [Fits, String.toList_ofList, if_neg hne, if_true]
    rw [sources, source_scan]
    exact cutAt?_eq_none_iff.1 hcut
  | case6 c rest htag hout ih =>
    obtain ⟨hplain, hb⟩ := spanLiteral_spec rest
    refine ⟨fits_literal (noOpener_cons.2 ⟨?_, hplain⟩) hb, ih⟩
    -- no other rule of the scan applied, so nothing opens at `c`
    rw [spanLiteral_append, Bool.eq_false_iff]
    intro ho
    rcases opens_eq_true.1 ho with ⟨r, hr⟩ | ⟨r, hr⟩
    · obtain ⟨hc, hr⟩ := List.cons.inj hr
      exact htag r hc.symm hr.symm
    · obtain ⟨hc, hr⟩ := List.cons.inj hr
      exact hout r hc.symm hr.symm

/-! ### Canonical tokens are those of their text -/

/-- A token that is no text begins with a pair that opens a markup. -/
theorem opens_source {t : Token} (h : ¬ t.IsText) (s : List Char) :
    opens (t.source.toList ++ s) = true := by
  cases t with
  | tag markup => exact opens_eq_true.2 (.inl ⟨markup.toList ++ tagCloser ++ s, by simp [source]⟩)
  | output markup =>
    exact opens_eq_true.2 (.inr ⟨markup.toList ++ outputCloser ++ s, by simp [source]⟩)
  | literal text =>
    by_cases hbare : (literal text).IsBareOpener
    · rcases hbare with heq | heq <;> rw [heq, toList_source_literal]
      · exact opens_eq_true.2 (.inl ⟨s, rfl⟩)
      · exact opens_eq_true.2 (.inr ⟨s, rfl⟩)
    · exact absurd ⟨⟨text, rfl⟩, hbare⟩ h

theorem opens_sources {rest : List Token} (h : ∀ next ∈ rest.head?, ¬ next.IsText) :
    sources rest = [] ∨ opens (sources rest) = true := by
  cases rest with
  | nil => exact .inl rfl
  | cons next rest => exact .inr (opens_source (h next rfl) (sources rest))

/-- The scan cuts a token that fits off the text of a token list. -/
theorem scan_source_append {t : Token} {rest : List Token} (h : t.Fits rest) :
    scan (t.source.toList ++ sources rest) = t :: scan (sources rest) := by
  cases t with
  | tag markup =>
    have hcut : cutAt? tagCloser (markup.toList ++ tagCloser ++ sources rest)
        = some (markup.toList, sources rest) := by
      refine (cutAt?_eq_some_iff (by simp [tagCloser])).2 ⟨rfl, fun hin => ?_⟩
      -- an earlier pair would lie within the markup and the first character of its closer
      rcases pair_infix_concat hin with hin | ⟨hchar, -⟩
      · exact h hin
      · exact absurd hchar (by decide)
    have hsrc : (tag markup).source.toList ++ sources rest
        = tagOpener ++ (markup.toList ++ tagCloser ++ sources rest) := by simp [source]
    rw [hsrc, scan_tagOpener, hcut]
    simp only [String.ofList_toList]
  | output markup =>
    have hcut : cutAt? outputCloser (markup.toList ++ outputCloser ++ sources rest)
        = some (markup.toList, sources rest) := by
      refine (cutAt?_eq_some_iff (by simp [outputCloser])).2 ⟨rfl, fun hin => ?_⟩
      rcases pair_infix_concat hin with hin | ⟨-, hsuf⟩
      · exact h.1 hin
      · exact h.2 hsuf
    have hsrc : (output markup).source.toList ++ sources rest
        = outputOpener ++ (markup.toList ++ outputCloser ++ sources rest) := by simp [source]
    rw [hsrc, scan_outputOpener, hcut]
    simp only [String.ofList_toList]
  | literal text =>
    show scan (text.toList ++ sources rest) = _
    simp only [Fits] at h
    by_cases htag : text.toList = tagOpener
    · rw [if_pos htag] at h
      rw [htag, scan_tagOpener, cutAt?_eq_none_iff.2 h, ← htag, String.ofList_toList]
    · rw [if_neg htag] at h
      by_cases hout : text.toList = outputOpener
      · rw [if_pos hout] at h
        rw [hout, scan_outputOpener, cutAt?_eq_none_iff.2 h, ← hout, String.ofList_toList]
      · rw [if_neg hout] at h
        obtain ⟨hne, hnotag, hnoout, hlast, hnext⟩ := h
        -- a text ends where the next token opens a markup, or at the end of all
        have hb := opens_sources hnext
        have hplain : NoOpener text.toList (sources rest) := by
          refine (noOpener_iff hb).2 ⟨hnotag, hnoout, fun hrest => hlast ?_⟩
          rintro rfl
          exact hrest rfl
        cases htext : text.toList with
        | nil => exact absurd (String.toList_eq_nil_iff.1 htext) hne
        | cons c a =>
          rw [htext] at hplain
          rw [List.cons_append, scan_literal hplain hb, ← htext, String.ofList_toList]

/-- Canonical tokens are the tokens of their text. -/
theorem scan_sources {tokens : List Token} (h : Canonical tokens) :
    scan (sources tokens) = tokens := by
  induction tokens with
  | nil => rw [sources_nil, scan]
  | cons t rest ih => rw [sources_cons, scan_source_append h.1, ih h.2]

/-- **Texts and canonical token lists are in bijection**: the tokens of a text are canonical and
their sources make up the text, and no other canonical tokens do. -/
theorem tokenize_eq_iff (text : String) (tokens : List Token) :
    tokenize text = tokens ↔ Canonical tokens ∧ String.join (tokens.map source) = text := by
  constructor
  · rintro rfl
    refine ⟨canonical_scan text.toList, String.toList_inj.1 ?_⟩
    rw [toList_join_source]
    exact source_scan text.toList
  · rintro ⟨hcanonical, rfl⟩
    rw [tokenize, toList_join_source, scan_sources hcanonical]

end Liquid.Token
