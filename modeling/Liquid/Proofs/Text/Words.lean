import Liquid.Proofs.Text.Blank

/-!
# Words

A text is cut into words at each of its blanks, and everything about its words follows from this.

- `words_append_blank`: the words of a text with a blank in it.
- `words_of_forall`: text without blanks is one word.
- `StandsIn`, `mem_words_iff`: the words of a text are the runs that blanks or its ends bound.
- `mem_words_quoted_iff`: the words of quoted text, but for those with the quotes.
-/

namespace Liquid.Text

theorem words_nil : words [] = [] := rfl

/-- Words do not reach over a blank. -/
theorem words_append_blank {c : Char} (hc : isBlank c = true) (s t : List Char) :
    words (s ++ c :: t) = words s ++ words t := by
  -- for the induction on the front, with any run that the scan has begun
  have hgo : ∀ run, words.go run (s ++ c :: t) = words.go run s ++ words.go [] t := by
    induction s with
    | nil =>
      intro run
      rw [List.nil_append, words.go, words.go, if_pos hc]
    | cons d s ih =>
      intro run
      rw [List.cons_append, words.go, words.go]
      split
      · rw [ih, List.append_assoc]
      · exact ih (d :: run)
  exact hgo []

theorem words_cons_blank {c : Char} (hc : isBlank c = true) (s : List Char) :
    words (c :: s) = words s := words_append_blank hc [] s

theorem words_trimStart (s : List Char) : words (trimStart s) = words s := by
  induction s with
  | nil => rfl
  | cons c s ih =>
    rw [trimStart, List.dropWhile_cons]
    split
    · next hc => rw [words_cons_blank hc, ← ih, trimStart]
    · rfl

theorem words_of_forall {s : List Char} (hne : s ≠ []) (h : ∀ c ∈ s, isBlank c = false) :
    words s = [s] := by
  have hgo : ∀ run, words.go run s = words.close (s.reverse ++ run) := by
    clear hne
    induction s with
    | nil =>
      intro run
      rw [words.go]
      rfl
    | cons c s ih =>
      intro run
      have hc : ¬ isBlank c = true := by
        rw [h c List.mem_cons_self]
        exact Bool.false_ne_true
      rw [words.go, if_neg hc, ih fun d hd => h d (List.mem_cons_of_mem c hd), List.reverse_cons,
        List.append_assoc]
      rfl
  rw [words, hgo, List.append_nil, words.close, if_neg, List.reverse_reverse]
  rw [List.isEmpty_reverse, List.isEmpty_iff]
  exact hne

/-- The text `w` stands in `s` by itself: on both sides of it is a blank, or nothing. -/
def StandsIn (w s : List Char) : Prop :=
  ∃ a b, s = a ++ (w ++ b) ∧ (∀ c ∈ a.getLast?, isBlank c = true)
    ∧ ∀ c ∈ b.head?, isBlank c = true

theorem StandsIn.of_behind {w t : List Char} (h : StandsIn w t) (s : List Char) {c : Char}
    (hc : isBlank c = true) : StandsIn w (s ++ c :: t) := by
  obtain ⟨a, b, rfl, ha, hb⟩ := h
  refine ⟨s ++ c :: a, b, by rw [List.append_assoc, List.cons_append], fun d hd => ?_, hb⟩
  rw [List.getLast?_append, List.getLast?_cons] at hd
  cases hlast : a.getLast? with
  | none =>
    rw [hlast] at hd
    cases hd
    exact hc
  | some d' =>
    rw [hlast] at hd
    cases hd
    exact ha _ hlast

theorem StandsIn.in_front (w : List Char) {b : List Char} (hb : ∀ c ∈ b.head?, isBlank c = true) :
    StandsIn w (w ++ b) := by
  refine ⟨[], b, rfl, fun c hc => ?_, hb⟩
  cases hc

theorem eq_of_mem_close {w run : List Char} (h : w ∈ words.close run) : w = run.reverse := by
  rw [words.close] at h
  split at h
  · cases h
  · exact List.mem_singleton.1 h

/-- A word that the scan finds is the run it has begun, or stands in the text by itself. -/
theorem standsIn_of_mem_go {w run s : List Char} (h : w ∈ words.go run s) :
    StandsIn w (run.reverse ++ s) := by
  induction s generalizing run with
  | nil =>
    rw [words.go] at h
    rw [eq_of_mem_close h]
    refine .in_front _ fun c hc => ?_
    cases hc
  | cons c s ih =>
    rw [words.go] at h
    split at h
    · next hc =>
      rcases List.mem_append.1 h with h | h
      · rw [eq_of_mem_close h]
        refine .in_front _ fun d hd => ?_
        cases hd
        exact hc
      · exact (ih h).of_behind run.reverse hc
    · have hrest := ih h
      rwa [List.reverse_cons, List.append_assoc] at hrest

/-- The words of a text are the runs without blanks that stand in it by themselves. -/
theorem mem_words_iff {w s : List Char} (hne : w ≠ []) (hw : ∀ c ∈ w, isBlank c = false) :
    w ∈ words s ↔ StandsIn w s := by
  constructor
  · exact fun h => standsIn_of_mem_go h
  · rintro ⟨a, b, rfl, ha, hb⟩
    have hfront : words (w ++ b) = w :: words b := by
      cases b with
      | nil => rw [List.append_nil, words_of_forall hne hw, words_nil]
      | cons c b =>
        have hc := hb c rfl
        rw [words_append_blank hc, words_of_forall hne hw, words_cons_blank hc]
        rfl
    rcases List.eq_nil_or_concat a with rfl | ⟨a, c, rfl⟩
    · rw [List.nil_append, hfront]
      exact List.mem_cons_self
    · rw [List.concat_eq_append] at ha ⊢
      have hc := ha c List.getLast?_concat
      rw [List.append_assoc, List.singleton_append, words_append_blank hc,
        hfront]
      exact List.mem_append_right _ List.mem_cons_self

/-- The text `w` stands in `s` with a blank on both sides. -/
def StandsBetween (w s : List Char) : Prop :=
  ∃ a x y b, isBlank x = true ∧ isBlank y = true ∧ s = a ++ x :: (w ++ y :: b)

section Quoted

variable {p s w : List Char} {q : Char}

/-- Text that ends in a character of no word has words in front of it only. -/
theorem exists_blank_behind (hne : w ≠ []) (hq : isBlank q = false) (hw : q ∉ w)
    (h : StandsIn w (s ++ [q])) :
    ∃ a y b, s = a ++ (w ++ y :: b) ∧ (∀ c ∈ a.getLast?, isBlank c = true)
      ∧ isBlank y = true := by
  obtain ⟨a, b, heq, ha, hb⟩ := h
  rcases List.eq_nil_or_concat b with rfl | ⟨b, e, rfl⟩
  · -- the last character would be one of the word
    rcases List.eq_nil_or_concat w with rfl | ⟨w, e, rfl⟩
    · exact absurd rfl hne
    · rw [List.append_nil, List.concat_eq_append, ← List.append_assoc] at heq
      cases (List.append_inj' heq rfl).2
      exact absurd (by simp) hw
  · rw [List.concat_eq_append, ← List.append_assoc, ← List.append_assoc] at heq
    obtain ⟨hs, he⟩ := List.append_inj' heq rfl
    cases he
    cases b with
    | nil =>
      rw [hb q rfl] at hq
      cases hq
    | cons y b => exact ⟨a, y, b, by rw [hs, List.append_assoc], ha, hb y rfl⟩

/-- A word that does not hold the quote stands in quoted text between blanks, or not at all. -/
theorem mem_words_quoted_iff (hne : w ≠ []) (hblank : ∀ c ∈ w, isBlank c = false) (hw : q ∉ w)
    (hp : ∀ c ∈ p, isBlank c = false) (hq : isBlank q = false) :
    w ∈ words (p ++ q :: (s ++ [q])) ↔ StandsBetween w s := by
  rw [mem_words_iff hne hblank]
  constructor
  · intro h
    have hfront : ∀ c ∈ p ++ [q], isBlank c = false := by
      intro c hc
      rcases List.mem_append.1 hc with hc | hc
      · exact hp c hc
      · rw [List.mem_singleton.1 hc]
        exact hq
    have htext : p ++ q :: (s ++ [q]) = (p ++ [q] ++ s) ++ [q] := by
      rw [List.append_assoc, List.append_assoc]
      rfl
    rw [htext] at h
    -- the blank behind the word comes first, so that only the front has to be looked at
    obtain ⟨a, y, b, heq, ha, hy⟩ := exists_blank_behind hne hq hw h
    rcases List.append_eq_append_iff.1 heq with ⟨a', rfl, hs⟩ | ⟨front, hpq, hrest⟩
    · -- the word stands behind the first quote, and a blank between them
      rcases List.eq_nil_or_concat a' with rfl | ⟨a', x, rfl⟩
      · rw [List.append_nil] at ha
        exact absurd (ha q List.getLast?_concat) (Bool.eq_false_iff.1 hq)
      · rw [List.concat_eq_append, ← List.append_assoc] at ha
        exact ⟨a', x, y, b, ha x List.getLast?_concat, hy, by rw [hs]; simp⟩
    · -- the word would begin in front of it, and hold it or end at a blank there
      exfalso
      have hmem : q ∈ front := by
        rcases List.eq_nil_or_concat front with rfl | ⟨front, e, rfl⟩
        · rw [List.append_nil] at hpq
          rw [← hpq] at ha
          exact absurd (ha q List.getLast?_concat) (Bool.eq_false_iff.1 hq)
        · rw [List.concat_eq_append, ← List.append_assoc] at hpq
          cases (List.append_inj' hpq rfl).2
          simp
      rcases List.append_eq_append_iff.1 hrest with ⟨rest, rfl, hb⟩ | ⟨rest, rfl, -⟩
      · cases rest with
        | nil => exact hw (by rwa [List.append_nil] at hmem)
        | cons z rest =>
          cases hb
          have hfree := hfront y (by rw [hpq]; simp)
          rw [hfree] at hy
          cases hy
      · exact hw (List.mem_append_left rest hmem)
  · rintro ⟨a, x, y, b, hx, hy, rfl⟩
    refine ⟨p ++ q :: (a ++ [x]), y :: (b ++ [q]), ?_, fun c hc => ?_, fun c hc => ?_⟩
    · simp only [List.append_assoc, List.cons_append, List.nil_append]
    · rw [← List.cons_append, ← List.append_assoc, List.getLast?_concat] at hc
      cases hc
      exact hx
    · cases hc
      exact hy

end Quoted

end Liquid.Text
