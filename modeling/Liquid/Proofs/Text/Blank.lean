import Liquid.Text.Blank

/-!
# Text without blank ends

What trimming leaves: text between two characters that are not blank, or nothing.

- `takeWhile_run`, `dropWhile_run`: a run of characters of a class, and where it ends.
- `Tight`: text that begins and ends with characters that are not blank.
- `Tight.trim_surrounded`: tight text is what is left when it is trimmed, whatever blanks stand
  around it.
- `tight_trim`, `trim_trim`: what trimming leaves is tight, and trimming it again changes nothing.
-/

namespace Liquid.Text

/-- A character of a class is none of those outside of it. -/
theorem ne_of_class {p : Char → Bool} {c m : Char} (hc : p c = true) (hm : p m = false) :
    c ≠ m := by
  rintro rfl
  rw [hc] at hm
  cases hm

/-! ### Runs -/

section Run

variable {p : Char → Bool} {s t : List Char} (hs : ∀ c ∈ s, p c = true)
  (ht : ∀ c ∈ t.head?, p c = false)
include hs ht

theorem takeWhile_run : (s ++ t).takeWhile p = s := by
  rw [List.takeWhile_append_of_pos hs]
  cases t with
  | nil => exact List.append_nil s
  | cons c t => rw [List.takeWhile_cons, ht c rfl, if_neg Bool.false_ne_true, List.append_nil]

theorem dropWhile_run : (s ++ t).dropWhile p = t := by
  rw [List.dropWhile_append_of_pos hs]
  cases t with
  | nil => rfl
  | cons c t => rw [List.dropWhile_cons, ht c rfl, if_neg Bool.false_ne_true]

end Run

section Closed

variable {s t : List Char} {q : Char} (hs : q ∉ s)
include hs

/-- Text up to a character that does not stand in it. -/
theorem takeWhile_ne : (s ++ q :: t).takeWhile (· != q) = s := by
  refine takeWhile_run (fun c hc => bne_iff_ne.2 ?_) fun c hc => ?_
  · rintro rfl
    exact hs hc
  · cases hc
    exact bne_self_eq_false q

theorem dropWhile_ne : (s ++ q :: t).dropWhile (· != q) = q :: t := by
  refine dropWhile_run (fun c hc => bne_iff_ne.2 ?_) fun c hc => ?_
  · rintro rfl
    exact hs hc
  · cases hc
    exact bne_self_eq_false q

end Closed

/-! ### Blank ends -/

/-- The text begins and ends with characters that are not blank. -/
structure Tight (s : List Char) : Prop where
  /-- The first character is there, and is not blank. -/
  first : ∃ c, s.head? = some c ∧ isBlank c = false
  /-- So is the last one. -/
  last : ∃ c, s.getLast? = some c ∧ isBlank c = false

/-- Every character of the text is blank. -/
def AllBlank (s : List Char) : Prop := ∀ c ∈ s, isBlank c = true

theorem allBlank_nil : AllBlank [] := by
  intro c hc
  cases hc

theorem allBlank_space : AllBlank [' '] := by
  intro c hc
  rw [List.mem_singleton.1 hc]
  rfl

namespace Tight

variable {s t : List Char}

theorem ne_nil (h : Tight s) : s ≠ [] := by
  rintro rfl
  obtain ⟨c, hc, -⟩ := h.first
  cases hc

/-- Text that is there and holds no blank is tight. -/
theorem of_forall (hne : s ≠ []) (h : ∀ c ∈ s, isBlank c = false) : Tight s := by
  constructor
  · exact ⟨s.head hne, List.head?_eq_some_head hne, h _ (List.head_mem hne)⟩
  · exact ⟨s.getLast hne, List.getLast?_eq_some_getLast hne, h _ (List.getLast_mem hne)⟩

/-- Only the two ends count: anything may stand between tight texts. -/
theorem append_append (hs : Tight s) (m : List Char) (ht : Tight t) : Tight (s ++ (m ++ t)) := by
  obtain ⟨c, hc, hcb⟩ := hs.first
  obtain ⟨d, hd, hdb⟩ := ht.last
  constructor
  · exact ⟨c, by rw [List.head?_append, hc, Option.some_or], hcb⟩
  · exact ⟨d, by rw [List.getLast?_append, List.getLast?_append, hd, Option.some_or,
      Option.some_or], hdb⟩

theorem append (hs : Tight s) (ht : Tight t) : Tight (s ++ t) := hs.append_append [] ht

theorem singleton {c : Char} (h : isBlank c = false) : Tight [c] := ⟨⟨c, rfl, h⟩, ⟨c, rfl, h⟩⟩

theorem reverse (h : Tight s) : Tight s.reverse := by
  constructor
  · rw [List.head?_reverse]
    exact h.last
  · rw [List.getLast?_reverse]
    exact h.first

/-- No blank is dropped in front of tight text. -/
theorem dropWhile_append (h : Tight s) (m : List Char) :
    (s ++ m).dropWhile isBlank = s ++ m := by
  obtain ⟨c, hc, hcb⟩ := h.first
  cases s with
  | nil => cases hc
  | cons d rest =>
    cases hc
    exact List.dropWhile_cons_of_neg (by rw [hcb]; exact Bool.false_ne_true)

/-- Tight text is what trimming leaves of it, with blanks around it or without. -/
theorem trim_surrounded (h : Tight s) {lead tail : List Char} (hlead : AllBlank lead)
    (htail : AllBlank tail) : trim (lead ++ (s ++ tail)) = s := by
  have htail' : AllBlank tail.reverse := fun c hc => htail c (List.mem_reverse.1 hc)
  have hback : s.reverse.dropWhile isBlank = s.reverse := by
    have hdrop := h.reverse.dropWhile_append []
    rwa [List.append_nil] at hdrop
  rw [trim, trimStart, List.dropWhile_append_of_pos hlead, h.dropWhile_append, trimEnd,
    List.reverse_append, List.dropWhile_append_of_pos htail', hback, List.reverse_reverse]

theorem trim_eq (h : Tight s) : trim s = s := by
  have htrim := h.trim_surrounded allBlank_nil allBlank_nil
  rwa [List.append_nil, List.nil_append] at htrim

end Tight

/-- Text without blanks has no blank ends. -/
theorem trim_eq_self {s : List Char} (h : ∀ c ∈ s, isBlank c = false) : trim s = s := by
  by_cases hne : s = []
  · rw [hne]
    rfl
  · exact (Tight.of_forall hne h).trim_eq

/-- What trimming leaves is tight, if anything is left. -/
theorem tight_trim {s : List Char} (h : trim s ≠ []) : Tight (trim s) := by
  have hfront : trim s <+: trimStart s := by
    have hsuffix := List.reverse_prefix.2 ((trimStart s).reverse.dropWhile_suffix isBlank)
    rwa [List.reverse_reverse] at hsuffix
  have hreverse : (trimStart s).reverse.dropWhile isBlank ≠ [] := by
    intro hnil
    rw [trim, trimEnd, hnil] at h
    exact h rfl
  constructor
  · refine ⟨(trim s).head h, List.head?_eq_some_head h, ?_⟩
    rw [hfront.head h]
    exact List.head_dropWhile_not isBlank _
  · refine ⟨(trim s).getLast h, List.getLast?_eq_some_getLast h, ?_⟩
    have hlast : (trim s).getLast h = _ := List.getLast_reverse h
    rw [hlast]
    exact List.head_dropWhile_not isBlank hreverse

/-- Trimming again changes nothing. -/
theorem trim_trim (s : List Char) : trim (trim s) = trim s := by
  by_cases h : trim s = []
  · rw [h]
    rfl
  · exact (tight_trim h).trim_eq

/-- Tight texts with anything between one and the next are tight together. -/
theorem tight_intercalate (sep : List Char) {texts : List (List Char)} (hne : texts ≠ [])
    (h : ∀ t ∈ texts, Tight t) : Tight (sep.intercalate texts) := by
  induction texts with
  | nil => exact absurd rfl hne
  | cons t rest ih =>
    have ht := h t List.mem_cons_self
    cases rest with
    | nil => rwa [List.intercalate_singleton]
    | cons u others =>
      rw [List.intercalate_cons_cons, List.append_assoc]
      exact ht.append_append sep
        (ih (List.cons_ne_nil u others) fun v hv => h v (List.mem_cons_of_mem t hv))

end Liquid.Text
