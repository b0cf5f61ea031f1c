import Liquid.Proofs.Token.Canonical

/-!
# The tokens of two texts, one behind the other

A text without an unclosed opening pair that does not end in half of one can be cut off in front of
any other text: what markup stands in the two is the same.

- `Token.canonical_append_iff`: a list of tokens is canonical if its two parts are and the last
  token of the first fits in front of the second.
- `Token.scan_append`: no token begins in one text and ends in the other. Only a literal at the end
  of the first and one in front of the second become one.
- `Token.scan_append_of_not_isText`: where the second text begins with markup, not even these do.
-/

namespace Liquid.Token

open Text

variable {t : Token} {tokens front back rest rest' : List Token} {a b : String}

/-- Only an unclosed opening pair depends on all that stands behind it, a text on whether another
text does. -/
theorem Fits.congr (hopen : ¬ t.IsBareOpener) (hnil : rest = [] → rest' = [])
    (htext : ∀ next' ∈ rest'.head?, next'.IsText → ∃ next ∈ rest.head?, next.IsText)
    (h : t.Fits rest) : t.Fits rest' := by
  cases t with
  | tag markup => exact h
  | output markup => exact h
  | literal text =>
    rw [isBareOpener_literal_iff, not_or] at hopen
    simp only [Fits, if_neg hopen.1, if_neg hopen.2] at h ⊢
    obtain ⟨hne, htag, hout, hlast, hnext⟩ := h
    refine ⟨hne, htag, hout, fun hrest => hlast fun hnone => hrest (hnil hnone), ?_⟩
    intro next' hnext' hIsText
    obtain ⟨next, hmem, hnextText⟩ := htext next' hnext' hIsText
    exact hnext next hmem hnextText

/-- At the end of all a token fits that fits anywhere. -/
theorem Fits.nil (hopen : ¬ t.IsBareOpener) (h : t.Fits rest) : t.Fits [] := by
  refine h.congr hopen (fun _ => rfl) fun next hnext => ?_
  cases hnext

/-- What fits at the end of all fits in front of other tokens, too, unless half a pair or a text
meets there. -/
theorem Fits.of_nil (hopen : ¬ t.IsBareOpener) (hlast : ¬ ['{'] <:+ t.source.toList)
    (htext : t.IsText → ∀ next ∈ rest.head?, ¬ next.IsText) (h : t.Fits []) : t.Fits rest := by
  cases t with
  | tag markup => exact h
  | output markup => exact h
  | literal text =>
    have hIsText : (literal text).IsText := ⟨⟨text, rfl⟩, hopen⟩
    rw [isBareOpener_literal_iff, not_or] at hopen
    simp only [Fits, if_neg hopen.1, if_neg hopen.2] at h ⊢
    obtain ⟨hne, htag, hout, -, -⟩ := h
    exact ⟨hne, htag, hout, fun _ => hlast, htext hIsText⟩

/-- Tokens without an unclosed opening pair are canonical in front of others where they are so by
themselves and the last one fits there. -/
theorem canonical_append_iff (hopen : ∀ t ∈ front, ¬ t.IsBareOpener) :
    Canonical (front ++ back) ↔
      Canonical front ∧ Canonical back ∧ ∀ t ∈ front.getLast?, t.Fits back := by
  induction front with
  | nil =>
    constructor
    · intro h
      exact ⟨trivial, h, fun t ht => by cases ht⟩
    · rintro ⟨-, h, -⟩
      exact h
  | cons t rest ih =>
    have ht : ¬ t.IsBareOpener := hopen t List.mem_cons_self
    have ih := ih fun t' ht' => hopen t' (List.mem_cons_of_mem t ht')
    cases rest with
    | nil =>
      constructor
      · rintro ⟨hfits, hback⟩
        refine ⟨⟨hfits.nil ht, trivial⟩, hback, fun t' ht' => ?_⟩
        cases ht'
        exact hfits
      · rintro ⟨-, hback, hlast⟩
        exact ⟨hlast t rfl, hback⟩
    | cons next rest =>
      -- the token in front sees the same head, whether `back` stands behind all or not
      have hfits : t.Fits (next :: rest ++ back) ↔ t.Fits (next :: rest) := by
        constructor
        · refine Fits.congr ht (fun h => ?_) fun next' hnext' hText => ⟨next', hnext', hText⟩
          cases h
        · refine Fits.congr ht (fun h => ?_) fun next' hnext' hText => ⟨next', hnext', hText⟩
          cases h
      rw [List.cons_append, Canonical, hfits, ih, Canonical, List.getLast?_cons_cons]
      exact ⟨fun ⟨h, hrest, hback, hlast⟩ => ⟨⟨h, hrest⟩, hback, hlast⟩,
        fun ⟨⟨h, hrest⟩, hback, hlast⟩ => ⟨h, hrest, hback, hlast⟩⟩

theorem sources_append (front back : List Token) :
    sources (front ++ back) = sources front ++ sources back := List.flatMap_append

/-- The tokens of a text make up the text. -/
theorem sources_scan (s : List Char) : sources (scan s) = s := source_scan s

/-- Two texts next to each other are one that holds no opening pair, if the first does not end in
half of one. -/
theorem not_infix_append {x y : Char} {a b : List Char} (hlast : ¬ [x] <:+ a)
    (ha : ¬ [x, y] <:+: a) (hb : ¬ [x, y] <:+: b) : ¬ [x, y] <:+: a ++ b := by
  intro h
  rcases List.infix_append_iff.1 h with h | h | ⟨s, t, hst, hs, ht⟩
  · exact ha h
  · exact hb h
  · match s, hst with
    | [], hst => exact hb (hst ▸ ht.isInfix)
    | [z], hst =>
      obtain ⟨rfl, -⟩ := List.cons.inj hst
      exact hlast hs
    | [z, w], hst =>
      obtain ⟨rfl, hw⟩ := List.cons.inj hst
      obtain ⟨rfl, -⟩ := List.cons.inj hw
      exact ha hs.isInfix

/-- Two texts next to each other are one text. -/
theorem fits_literal_append (ha : (literal a).Fits []) (hb : (literal b).Fits rest)
    (haOpen : ¬ (literal a).IsBareOpener) (hbOpen : ¬ (literal b).IsBareOpener)
    (hlast : ¬ ['{'] <:+ a.toList) :
    (literal (a ++ b)).Fits rest ∧ ¬ (literal (a ++ b)).IsBareOpener := by
  rw [isBareOpener_literal_iff, not_or] at haOpen hbOpen
  simp only [Fits, if_neg haOpen.1, if_neg haOpen.2] at ha
  simp only [Fits, if_neg hbOpen.1, if_neg hbOpen.2] at hb
  obtain ⟨-, haTag, haOut, -, -⟩ := ha
  obtain ⟨hne, hbTag, hbOut, hbLast, hnext⟩ := hb
  have htag : ¬ tagOpener <:+: (a ++ b).toList := by
    rw [String.toList_append]
    exact not_infix_append hlast haTag hbTag
  have hout : ¬ outputOpener <:+: (a ++ b).toList := by
    rw [String.toList_append]
    exact not_infix_append hlast haOut hbOut
  have hneTag : (a ++ b).toList ≠ tagOpener := fun h => htag (h ▸ List.infix_rfl)
  have hneOut : (a ++ b).toList ≠ outputOpener := fun h => hout (h ▸ List.infix_rfl)
  refine ⟨?_, fun h => (isBareOpener_literal_iff.1 h).elim hneOut hneTag⟩
  simp only [Fits, if_neg hneTag, if_neg hneOut]
  refine ⟨fun h => hne (String.append_eq_empty_iff.1 h).2, htag, hout, fun hrest hsuf => ?_, hnext⟩
  -- the second text is not empty, so the last character is its own
  rw [String.toList_append] at hsuf
  have hlength : 0 < b.toList.length :=
    List.length_pos_iff.2 fun h => hne (String.toList_eq_nil_iff.1 h)
  exact hbLast hrest (List.suffix_of_suffix_length_le hsuf (List.suffix_append _ _) hlength)

variable {s t : List Char}

section

variable (hopen : ∀ t ∈ scan s, ¬ t.IsBareOpener) (hlast : ¬ ['{'] <:+ s)

include hopen hlast

/-- The last token of the first text fits in front of those of the second, unless both are texts. -/
theorem fits_last (hback : ∀ last ∈ (scan s).getLast?, last.IsText →
      ∀ next ∈ back.head?, ¬ next.IsText) :
    ∀ last ∈ (scan s).getLast?, last.Fits back := by
  intro last hmem
  obtain ⟨front, hfront⟩ := List.getLast?_eq_some_iff.1 hmem
  have hlastOpen : ¬ last.IsBareOpener := hopen last (List.mem_of_getLast? hmem)
  have hcanonical : Canonical (front ++ [last]) := hfront ▸ canonical_scan s
  have hfits : last.Fits [] := by
    rw [canonical_append_iff fun t ht => hopen t (hfront ▸ List.mem_append_left _ ht)] at hcanonical
    exact hcanonical.2.1.1
  refine hfits.of_nil hlastOpen (fun hsuf => hlast ?_) (hback last hmem)
  rw [← sources_scan s, hfront, sources_append, sources_cons, sources_nil, List.append_nil]
  exact hsuf.trans (List.suffix_append _ _)

/-- Where the second text begins with markup, its tokens stand behind those of the first. -/
theorem scan_append_of_not_isText (hback : ∀ next ∈ (scan t).head?, ¬ next.IsText) :
    scan (s ++ t) = scan s ++ scan t := by
  have hcanonical : Canonical (scan s ++ scan t) :=
    (canonical_append_iff hopen).2 ⟨canonical_scan s, canonical_scan t,
      fits_last hopen hlast fun _ _ _ => hback⟩
  rw [← scan_sources hcanonical, sources_append, sources_scan, sources_scan]

/-- The tokens of two texts are those of the one behind those of the other, but that two literals
that meet are one. -/
theorem scan_append :
    scan (s ++ t) = scan s ++ scan t
    ∨ ∃ front a b back, scan s = front ++ [literal a] ∧ scan t = literal b :: back
      ∧ ¬ (literal b).IsBareOpener ∧ ¬ (literal (a ++ b)).IsBareOpener
      ∧ scan (s ++ t) = front ++ literal (a ++ b) :: back := by
  by_cases htexts : ∃ last ∈ (scan s).getLast?, last.IsText ∧ ∃ next ∈ (scan t).head?, next.IsText
  · right
    obtain ⟨last, hlastMem, ⟨⟨a, rfl⟩, haOpen⟩, next, hnextMem, ⟨b, rfl⟩, hbOpen⟩ := htexts
    obtain ⟨front, hfront⟩ := List.getLast?_eq_some_iff.1 hlastMem
    obtain ⟨back, hback⟩ := List.head?_eq_some_iff.1 hnextMem
    have hfrontOpen : ∀ t ∈ front, ¬ t.IsBareOpener := fun t ht =>
      hopen t (hfront ▸ List.mem_append_left _ ht)
    obtain ⟨hfrontCanonical, ⟨ha, -⟩, hfrontLast⟩ :=
      (canonical_append_iff hfrontOpen).1 (hfront ▸ canonical_scan s)
    obtain ⟨hb, hbackCanonical⟩ : Canonical (literal b :: back) := hback ▸ canonical_scan t
    have haLast : ¬ ['{'] <:+ a.toList := by
      intro hsuf
      rw [← sources_scan s, hfront, sources_append, sources_cons, sources_nil,
        List.append_nil] at hlast
      exact hlast (hsuf.trans (List.suffix_append _ _))
    obtain ⟨hfits, habOpen⟩ := fits_literal_append ha hb haOpen hbOpen haLast
    have hcanonical : Canonical (front ++ literal (a ++ b) :: back) := by
      refine (canonical_append_iff hfrontOpen).2 ⟨hfrontCanonical, ⟨hfits, hbackCanonical⟩, ?_⟩
      intro t ht
      refine (hfrontLast t ht).congr (hfrontOpen t (List.mem_of_getLast? ht)) (fun h => ?_) ?_
      · cases h
      · intro _ _ _
        exact ⟨literal a, rfl, ⟨a, rfl⟩, haOpen⟩
    refine ⟨front, a, b, back, hfront, hback, hbOpen, habOpen, ?_⟩
    rw [← scan_sources hcanonical]
    congr 1
    rw [← sources_scan s, ← sources_scan t, hfront, hback]
    simp only [sources_append, sources_cons, sources_nil, source, String.toList_append,
      List.append_nil, List.append_assoc]
  · left
    have hcanonical : Canonical (scan s ++ scan t) := by
      refine (canonical_append_iff hopen).2 ⟨canonical_scan s, canonical_scan t, ?_⟩
      refine fits_last hopen hlast fun last hmem hText next hnext hnextText => ?_
      exact htexts ⟨last, hmem, hText, next, hnext, hnextText⟩
    rw [← scan_sources hcanonical, sources_append, sources_scan, sources_scan]

end

/-- A tag in front of a text is a token in front of its tokens. -/
theorem scan_tag_append {markup : String} (h : ¬ tagCloser <:+: markup.toList) :
    scan ((tag markup).source.toList ++ s) = tag markup :: scan s := by
  have hfits : (tag markup).Fits (scan s) := h
  have hscan := scan_source_append hfits
  rwa [sources_scan] at hscan

end Liquid.Token
