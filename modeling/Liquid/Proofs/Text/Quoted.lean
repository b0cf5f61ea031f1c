import Liquid.Text.Quoted
import Liquid.Proofs.Text.Blank

/-!
# What the scanners pass over

The four scanners of markup leave quoted text alone, and those that count brackets leave alone what
brackets enclose. Each lemma is about a scan that goes on with any text behind the part that is
passed over, and so they can be put together.

- `foldr_of_quoted`: what any scanner does with quoted text.
- `PassedOver`, `passedOver_quoted`: the four scanners take quoted text as a whole.
- `cutUnquoted?_append`: the search for a character outside quotes, in plain text.
- `Balanced`: text whose quotes and brackets are closed, by which characters stand outside them.
- `Balanced.splitFrom_append`, `Balanced.cutBracketFrom?_append`: the scanners that count brackets
  pass over it.
- `map_trim_splitUnquoted`: a split gives back the texts that were put together.
-/

namespace Liquid.Text

/-! ### Quoted text -/

theorem foldr_consFirst (s piece : List Char) (pieces : List (List Char)) :
    s.foldr consFirst (piece :: pieces) = (s ++ piece) :: pieces := by
  induction s with
  | nil => rfl
  | cons c s ih =>
    rw [List.foldr_cons, ih]
    rfl

theorem foldr_map_cons (s : List Char) (cut? : Option (List Char × List Char)) :
    s.foldr (fun c cut? => cut?.map fun cut => (c :: cut.1, cut.2)) cut?
      = cut?.map fun cut => (s ++ cut.1, cut.2) := by
  induction s with
  | nil =>
    show cut? = cut?.map id
    rw [Option.map_id]
    rfl
  | cons c s ih =>
    rw [List.foldr_cons, ih, Option.map_map]
    rfl

theorem foldr_cons_run {α : Type} (s : List Char) (f : List Char → α) (run : List Char) :
    s.foldr (fun c f run => f (c :: run)) f run = f (s.reverse ++ run) := by
  induction s generalizing run with
  | nil => rfl
  | cons c s ih =>
    rw [List.foldr_cons, ih, List.reverse_cons, List.append_assoc]
    rfl

/-- What a scanner does with quoted text, when `push` is what it does with a character that it
passes over: a quote opens the text, any other character stays inside, and the next quote closes
it. -/
theorem foldr_of_quoted {α : Type} (outside inside : List Char → α)
    {push : Char → α → α} {q : Char} (hopen : ∀ t, outside (q :: t) = push q (inside t))
    (hstay : ∀ c t, q ≠ c → inside (c :: t) = push c (inside t))
    (hclose : ∀ t, inside (q :: t) = push q (outside t)) {a : List Char} (ha : q ∉ a)
    (t : List Char) :
    outside (q :: (a ++ [q]) ++ t) = (q :: (a ++ [q])).foldr push (outside t) := by
  have hinside : inside (a ++ [q] ++ t) = (a ++ [q]).foldr push (outside t) := by
    induction a with
    | nil => exact hclose t
    | cons c a ih =>
      obtain ⟨hc, ha⟩ := List.ne_and_not_mem_of_not_mem_cons ha
      rw [List.cons_append, List.cons_append, hstay c _ hc, ih ha]
      rfl
  rw [List.cons_append, hopen, hinside]
  rfl

/-- Every scanner that comes upon the text outside quotes takes it as a whole, and is outside
quotes again behind it. -/
structure PassedOver (s : List Char) : Prop where
  /-- No separator in it divides the text. -/
  splitFrom : ∀ (sep : Char) (d : Nat) (t : List Char),
    splitFrom sep ⟨none, d⟩ (s ++ t) = s.foldr consFirst (splitFrom sep ⟨none, d⟩ t)
  /-- No target is found in it. -/
  cutUnquotedFrom? : ∀ (target : Char) (t : List Char),
    cutUnquotedFrom? target none (s ++ t)
      = (cutUnquotedFrom? target none t).map fun cut => (s ++ cut.1, cut.2)
  /-- No blank in it ends a fragment. -/
  fragments : ∀ run t : List Char,
    fragments.go none run (s ++ t) = fragments.go none (s.reverse ++ run) t
  /-- No bracket in it counts. -/
  cutBracketFrom? : ∀ (d : Nat) (t : List Char),
    cutBracketFrom? none d (s ++ t)
      = (cutBracketFrom? none d t).map fun cut => (s ++ cut.1, cut.2)

theorem quoteAfter_none {q : Char} (hq : isQuote q = true) : quoteAfter none q = some q := if_pos hq

theorem quoteAfter_some {q c : Char} (hc : q ≠ c) : quoteAfter (some q) c = some q := if_neg hc.symm

theorem quoteAfter_close (q : Char) : quoteAfter (some q) q = none := if_pos rfl

theorem not_isBlank_of_isQuote {q : Char} (hq : isQuote q = true) : isBlank q = false := by
  simp only [isQuote, Bool.or_eq_true, beq_iff_eq] at hq
  rcases hq with rfl | rfl
  · rfl
  · rfl

/-- Quoted text without its own quote is passed over by every scanner. -/
theorem passedOver_quoted {q : Char} {a : List Char} (hq : isQuote q = true) (ha : q ∉ a) :
    PassedOver (q :: (a ++ [q])) := by
  have hsquare : q ≠ '[' := ne_of_class hq rfl
  have hsquare' : q ≠ ']' := ne_of_class hq rfl
  have hround : q ≠ '(' := ne_of_class hq rfl
  have hround' : q ≠ ')' := ne_of_class hq rfl
  have hopen := quoteAfter_none hq
  constructor
  · intro sep d t
    refine foldr_of_quoted (Text.splitFrom sep ⟨none, d⟩) (Text.splitFrom sep ⟨some q, d⟩) ?_ ?_
      ?_ ha t
    · intro t
      simp [Text.splitFrom, Nesting.divides, Nesting.step, hopen, hq, hsquare, hsquare', hround,
        hround']
    · intro c t hc
      simp [Text.splitFrom, Nesting.divides, Nesting.step, quoteAfter_some hc]
    · intro t
      simp [Text.splitFrom, Nesting.divides, Nesting.step, quoteAfter_close]
  · intro target t
    rw [← foldr_map_cons]
    refine foldr_of_quoted (Text.cutUnquotedFrom? target none)
      (Text.cutUnquotedFrom? target (some q)) ?_ ?_ ?_ ha t
    · intro t
      simp [Text.cutUnquotedFrom?, hopen, hq]
    · intro c t hc
      simp [Text.cutUnquotedFrom?, quoteAfter_some hc]
    · intro t
      simp [Text.cutUnquotedFrom?, quoteAfter_close]
  · intro run t
    rw [← foldr_cons_run _ fun run => fragments.go none run t]
    refine congrFun (foldr_of_quoted (fun t run => fragments.go none run t)
      (fun t run => fragments.go (some q) run t) ?_ ?_ ?_ ha t) run
    · intro t
      funext run
      simp [fragments.go, hopen, not_isBlank_of_isQuote hq]
    · intro c t hc
      funext run
      simp [fragments.go, quoteAfter_some hc]
    · intro t
      funext run
      simp [fragments.go, quoteAfter_close]
  · intro d t
    rw [← foldr_map_cons]
    refine foldr_of_quoted (Text.cutBracketFrom? none d) (Text.cutBracketFrom? (some q) d) ?_ ?_ ?_
      ha t
    · intro t
      simp [Text.cutBracketFrom?, hopen, hsquare, hsquare']
    · intro c t hc
      simp [Text.cutBracketFrom?, quoteAfter_some hc]
    · intro t
      simp [Text.cutBracketFrom?, quoteAfter_close]

/-- The search for a target goes on behind text that holds neither it nor a quote. -/
theorem cutUnquoted?_append {target : Char} {s : List Char}
    (hs : ∀ c ∈ s, isQuote c = false ∧ c ≠ target) (t : List Char) :
    cutUnquoted? target (s ++ t)
      = (cutUnquoted? target t).map fun cut => (s ++ cut.1, cut.2) := by
  rw [← foldr_map_cons]
  induction s with
  | nil => rfl
  | cons c s ih =>
    obtain ⟨hquote, hc⟩ := hs c List.mem_cons_self
    have hstep : cutUnquoted? target (c :: (s ++ t))
        = (cutUnquoted? target (s ++ t)).map fun cut => (c :: cut.1, cut.2) := by
      simp [cutUnquoted?, cutUnquotedFrom?, quoteAfter, hquote, hc]
    rw [List.cons_append, hstep, ih fun c' hc' => hs c' (List.mem_cons_of_mem c hc')]
    rfl

/-! ### Balanced text -/

/-- Quotes and brackets. -/
def isMark (c : Char) : Bool := isQuote c || c == '[' || c == '(' || c == ']' || c == ')'

theorem isMark_eq_false_iff {c : Char} :
    isMark c = false ↔ isQuote c = false ∧ c ≠ '[' ∧ c ≠ '(' ∧ c ≠ ']' ∧ c ≠ ')' := by
  simp [isMark, and_assoc]

/-- A class of characters without the quotes and brackets. -/
theorem isMark_of_class {p : Char → Bool} {c : Char} (hc : p c = true)
    (hmarks : (['\'', '"', '[', '(', ']', ')'].all fun m => !p m) = true) : isMark c = false := by
  simp only [List.all_cons, List.all_nil, Bool.and_true, Bool.and_eq_true, Bool.not_eq_true']
    at hmarks
  obtain ⟨hsingle, hdouble, hsquare, hround, hsquare', hround'⟩ := hmarks
  simp [isMark, isQuote, ne_of_class hc hsingle, ne_of_class hc hdouble, ne_of_class hc hsquare,
    ne_of_class hc hround, ne_of_class hc hsquare', ne_of_class hc hround']

/-- The brackets that belong together. -/
def IsPair (opening closing : Char) : Prop :=
  opening = '[' ∧ closing = ']' ∨ opening = '(' ∧ closing = ')'

namespace IsPair

variable {opening closing : Char}

theorem tight (h : IsPair opening closing) (s : List Char) :
    Tight (opening :: (s ++ [closing])) := by
  rcases h with ⟨rfl, rfl⟩ | ⟨rfl, rfl⟩
  · exact (Tight.singleton (c := '[') rfl).append_append s (Tight.singleton rfl)
  · exact (Tight.singleton (c := '(') rfl).append_append s (Tight.singleton rfl)

theorem splitFrom_opening (h : IsPair opening closing) (sep : Char) (d : Nat) (t : List Char) :
    splitFrom sep ⟨none, d⟩ (opening :: t)
      = consFirst opening (splitFrom sep ⟨none, d + 1⟩ t) := by
  rcases h with ⟨rfl, rfl⟩ | ⟨rfl, rfl⟩
  · simp [splitFrom, Nesting.divides, Nesting.step, quoteAfter, isQuote]
  · simp [splitFrom, Nesting.divides, Nesting.step, quoteAfter, isQuote]

theorem splitFrom_closing (h : IsPair opening closing) (sep : Char) (d : Nat) (t : List Char) :
    splitFrom sep ⟨none, d + 1⟩ (closing :: t)
      = consFirst closing (splitFrom sep ⟨none, d⟩ t) := by
  rcases h with ⟨rfl, rfl⟩ | ⟨rfl, rfl⟩
  · simp [splitFrom, Nesting.divides, Nesting.step, quoteAfter, isQuote]
  · simp [splitFrom, Nesting.divides, Nesting.step, quoteAfter, isQuote]

/-- Within brackets the search for a `]` counts at least one: square brackets add to the count,
round ones leave it as it is. -/
theorem cutBracketFrom? (h : IsPair opening closing) (d : Nat) :
    ∃ d', (∀ t, Text.cutBracketFrom? none (d + 1) (opening :: t)
        = (Text.cutBracketFrom? none (d' + 1) t).map fun cut => (opening :: cut.1, cut.2))
      ∧ ∀ t, Text.cutBracketFrom? none (d' + 1) (closing :: t)
        = (Text.cutBracketFrom? none (d + 1) t).map fun cut => (closing :: cut.1, cut.2) := by
  rcases h with ⟨rfl, rfl⟩ | ⟨rfl, rfl⟩
  · refine ⟨d + 1, fun t => ?_, fun t => ?_⟩
    · simp [Text.cutBracketFrom?, quoteAfter, isQuote]
    · simp [Text.cutBracketFrom?, quoteAfter, isQuote]
  · refine ⟨d, fun t => ?_, fun t => ?_⟩
    · simp [Text.cutBracketFrom?, quoteAfter, isQuote]
    · simp [Text.cutBracketFrom?, quoteAfter, isQuote]

end IsPair

/-- Text whose quotes and brackets are closed. Outside of them all its characters are `free`;
inside brackets any will do, and quoted text is not looked into. -/
inductive Balanced : (free : Char → Bool) → List Char → Prop where
  /-- Nothing is balanced. -/
  | nil {free : Char → Bool} : Balanced free []
  /-- A free character in front. -/
  | char {free : Char → Bool} {c : Char} {s : List Char} (hmark : isMark c = false)
    (hfree : free c = true) (hs : Balanced free s) : Balanced free (c :: s)
  /-- Quoted text in front. -/
  | quoted {free : Char → Bool} {q : Char} {a s : List Char} (hq : isQuote q = true) (ha : q ∉ a)
    (hs : Balanced free s) : Balanced free (q :: (a ++ [q]) ++ s)
  /-- Balanced text in brackets in front. -/
  | enclosed {free : Char → Bool} {opening closing : Char} {a s : List Char}
    (hpair : IsPair opening closing) (ha : Balanced (fun _ => true) a) (hs : Balanced free s) :
    Balanced free (opening :: (a ++ [closing]) ++ s)

namespace Balanced

variable {free free' : Char → Bool} {s t : List Char}

theorem append (hs : Balanced free s) (ht : Balanced free t) : Balanced free (s ++ t) := by
  induction hs with
  | nil => exact ht
  | char hmark hfree _ ih => exact .char hmark hfree (ih ht)
  | quoted hq ha _ ih =>
    rw [List.append_assoc]
    exact .quoted hq ha (ih ht)
  | enclosed hpair ha _ _ ih =>
    rw [List.append_assoc]
    exact .enclosed hpair ha (ih ht)

theorem mono (h : ∀ c, free c = true → free' c = true) (hs : Balanced free s) :
    Balanced free' s := by
  induction hs with
  | nil => exact .nil
  | char hmark hfree _ ih => exact .char hmark (h _ hfree) (ih h)
  | quoted hq ha _ ih => exact .quoted hq ha (ih h)
  | enclosed hpair ha _ _ ih => exact .enclosed hpair ha (ih h)

/-- Text without quotes and brackets. -/
theorem of_forall (h : ∀ c ∈ s, isMark c = false ∧ free c = true) : Balanced free s := by
  induction s with
  | nil => exact .nil
  | cons c s ih =>
    obtain ⟨hmark, hfree⟩ := h c List.mem_cons_self
    exact .char hmark hfree (ih fun c' hc' => h c' (List.mem_cons_of_mem c hc'))

theorem quote {q : Char} (hq : isQuote q = true) (h : q ∉ s) :
    Balanced free (q :: (s ++ [q])) := by
  have hbalanced : Balanced free (q :: (s ++ [q]) ++ []) := .quoted hq h .nil
  rwa [List.append_nil] at hbalanced

theorem enclose {opening closing : Char} (hpair : IsPair opening closing)
    (hs : Balanced (fun _ => true) s) : Balanced free (opening :: (s ++ [closing])) := by
  have hbalanced : Balanced free (opening :: (s ++ [closing]) ++ []) := .enclosed hpair hs .nil
  rwa [List.append_nil] at hbalanced

/-- A scan that splits passes over balanced text: within brackets, and where the separator is none
of the free characters. -/
theorem splitFrom_append (hs : Balanced free s) {sep : Char} {d : Nat}
    (hsep : 0 < d ∨ free sep = false) (t : List Char) :
    splitFrom sep ⟨none, d⟩ (s ++ t) = s.foldr consFirst (splitFrom sep ⟨none, d⟩ t) := by
  induction hs generalizing d t with
  | nil => rfl
  | @char free c s hmark hfree _ ih =>
    obtain ⟨hquote, hsquare, hround, hsquare', hround'⟩ := isMark_eq_false_iff.1 hmark
    have hstep : Nesting.step ⟨none, d⟩ c = ⟨none, d⟩ := by
      simp [Nesting.step, quoteAfter, hquote, hsquare, hround, hsquare', hround']
    have hdivides : Nesting.divides ⟨none, d⟩ sep c = false := by
      rcases hsep with hd | hsep
      · simp [Nesting.divides, Nat.ne_of_gt hd]
      · simp [Nesting.divides, ne_of_class hfree hsep]
    rw [List.cons_append, splitFrom, hdivides, hstep, ih hsep]
    rfl
  | quoted hq ha _ ih =>
    rw [List.append_assoc, (passedOver_quoted hq ha).splitFrom, ih hsep, List.foldr_append]
  | @enclosed free opening closing a s hpair _ _ iha ihs =>
    rw [List.append_assoc, List.cons_append, List.append_assoc, List.singleton_append,
      hpair.splitFrom_opening, iha (.inl (Nat.succ_pos d)), hpair.splitFrom_closing, ihs hsep,
      List.foldr_append, List.foldr_cons, List.foldr_append, List.foldr_cons, List.foldr_nil]

/-- The search for the end of a bracket passes over balanced text. -/
theorem cutBracketFrom?_append (hs : Balanced free s) (d : Nat) (t : List Char) :
    cutBracketFrom? none (d + 1) (s ++ t)
      = (cutBracketFrom? none (d + 1) t).map fun cut => (s ++ cut.1, cut.2) := by
  rw [← foldr_map_cons]
  induction hs generalizing d t with
  | nil => rfl
  | @char free c s hmark _ _ ih =>
    obtain ⟨hquote, hsquare, -, hsquare', -⟩ := isMark_eq_false_iff.1 hmark
    have hcut : ∀ u, cutBracketFrom? none (d + 1) (c :: u)
        = (cutBracketFrom? none (d + 1) u).map fun cut => (c :: cut.1, cut.2) := by
      intro u
      simp [cutBracketFrom?, quoteAfter, hquote, hsquare, hsquare']
    rw [List.cons_append, hcut, ih]
    rfl
  | quoted hq ha _ ih =>
    rw [List.append_assoc, (passedOver_quoted hq ha).cutBracketFrom?, ih, ← foldr_map_cons,
      List.foldr_append]
  | @enclosed free opening closing a s hpair _ _ iha ihs =>
    obtain ⟨d', hopening, hclosing⟩ := hpair.cutBracketFrom? d
    rw [List.append_assoc, List.cons_append, List.append_assoc, List.singleton_append, hopening,
      iha, hclosing, ihs, List.foldr_append, List.foldr_cons, List.foldr_append, List.foldr_cons,
      List.foldr_nil]

end Balanced

/-! ### Texts put together -/

theorem AllBlank.balanced {s : List Char} {sep : Char} (hs : AllBlank s)
    (hsep : isBlank sep = false) : Balanced (· != sep) s := by
  exact .of_forall fun c hc =>
    ⟨isMark_of_class (hs c hc) rfl, bne_iff_ne.2 (ne_of_class (hs c hc) hsep)⟩

section Split

variable {sep : Char}

theorem Balanced.splitUnquoted_append {s : List Char} (hs : Balanced (· != sep) s)
    (t : List Char) : splitUnquoted sep (s ++ t) = s.foldr consFirst (splitUnquoted sep t) :=
  hs.splitFrom_append (.inr (bne_self_eq_false sep)) t

theorem Balanced.splitUnquoted_eq {s : List Char} (hs : Balanced (· != sep) s) :
    splitUnquoted sep s = [s] := by
  have hsplit := hs.splitUnquoted_append []
  have hnil : splitUnquoted sep [] = [[]] := rfl
  rwa [List.append_nil, hnil, foldr_consFirst, List.append_nil] at hsplit

theorem splitUnquoted_cons (hsep : isMark sep = false) (t : List Char) :
    splitUnquoted sep (sep :: t) = [] :: splitUnquoted sep t := by
  rw [splitUnquoted, splitFrom, if_pos]
  · rfl
  · show (true && (sep == sep) && !isMark sep) = true
    rw [hsep, beq_self_eq_true]
    rfl

/-- A split at separators with blanks around them gives back the texts that were put together,
where no separator stands outside the quotes and brackets of one. The induction is on the texts;
the blanks behind a separator are at hand as `lead`. -/
theorem map_trim_splitUnquoted_append (hsep : isMark sep = false) (hblank : isBlank sep = false)
    {before after : List Char} (hbefore : AllBlank before) (hafter : AllBlank after)
    {texts : List (List Char)} (hne : texts ≠ [])
    (h : ∀ t ∈ texts, Balanced (· != sep) t ∧ Tight t) {lead : List Char} (hlead : AllBlank lead) :
    (splitUnquoted sep (lead ++ (before ++ sep :: after).intercalate texts)).map trim = texts := by
  induction texts generalizing lead with
  | nil => exact absurd rfl hne
  | cons t rest ih =>
    obtain ⟨hbalanced, htight⟩ := h t List.mem_cons_self
    have hfront := (hlead.balanced hblank).append hbalanced
    cases rest with
    | nil =>
      have htrim := htight.trim_surrounded hlead allBlank_nil
      rw [List.append_nil] at htrim
      rw [List.intercalate_singleton, hfront.splitUnquoted_eq, List.map_singleton, htrim]
    | cons u others =>
      have hrest := ih (List.cons_ne_nil u others) (fun v hv => h v (List.mem_cons_of_mem t hv))
        hafter
      have htext : lead ++ (before ++ sep :: after).intercalate (t :: u :: others)
          = (lead ++ (t ++ before))
            ++ sep :: (after ++ (before ++ sep :: after).intercalate (u :: others)) := by
        rw [List.intercalate_cons_cons]
        simp only [List.append_assoc, List.cons_append]
      have hpiece := hfront.append (hbefore.balanced hblank)
      rw [List.append_assoc] at hpiece
      rw [htext, hpiece.splitUnquoted_append, splitUnquoted_cons hsep, foldr_consFirst,
        List.append_nil, List.map_cons, htight.trim_surrounded hlead hbefore, hrest]

theorem map_trim_splitUnquoted (hsep : isMark sep = false) (hblank : isBlank sep = false)
    {before after : List Char} (hbefore : AllBlank before) (hafter : AllBlank after)
    {texts : List (List Char)} (hne : texts ≠ [])
    (h : ∀ t ∈ texts, Balanced (· != sep) t ∧ Tight t) :
    (splitUnquoted sep ((before ++ sep :: after).intercalate texts)).map trim = texts :=
  map_trim_splitUnquoted_append hsep hblank hbefore hafter hne h allBlank_nil

/-- Balanced texts with blanks and a separator between one and the next are balanced together. -/
theorem Balanced.intercalate {free : Char → Bool} {gap : List Char} (hgap : Balanced free gap)
    {texts : List (List Char)} (h : ∀ t ∈ texts, Balanced free t) :
    Balanced free (gap.intercalate texts) := by
  induction texts with
  | nil => exact .nil
  | cons t rest ih =>
    have ht := h t List.mem_cons_self
    cases rest with
    | nil => rwa [List.intercalate_singleton]
    | cons u others =>
      rw [List.intercalate_cons_cons, List.append_assoc]
      exact ht.append (hgap.append (ih fun v hv => h v (List.mem_cons_of_mem t hv)))

end Split

end Liquid.Text
