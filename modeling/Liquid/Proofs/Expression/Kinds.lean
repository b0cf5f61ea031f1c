import Liquid.Proofs.Expression.Spelling

/-!
# Kinds of markup

Text that a scan passes over by its characters, and what is known of reading it: names with points
between them, paths, and integers of any size.

- `Expression.read`: what a text is read as.
- `Expression.IsPath`, `Expression.IsInteger`: what is read as a path, and digits.
- `Dotted.exists_parse`, `IsInteger.exists_parse`: such text can be read, whatever form it has.
-/

namespace Liquid

open Text

namespace Expression

/-- What a text is read as that can be read. -/
def read (text : List Char) : Expression := (parse text).toOption.getD (.literal .nil)

theorem parse_eq_read {text : List Char} (h : ∃ e, parse text = .ok e) :
    parse text = .ok (read text) := by
  obtain ⟨e, he⟩ := h
  rw [read, he]
  rfl

namespace Dotted

/-- Such a text is a constant or a path, and so it can be read. -/
theorem exists_parse (d : Dotted) : ∃ e, parse d.text = .ok e := by
  have htrim : trim d.text = d.text := trim_eq_self d.not_isBlank
  -- a name may be a keyword or an integer, and two integers with a point between them a fraction
  cases hconstant : constant? d.text with
  | some value => exact ⟨_, parse_of_constant? (by rw [htrim, hconstant])⟩
  | none =>
    exact ⟨_, parse_path d.first.ne_nil d.first.isNameChar (Bound.startsSegment_keys d.rest)
      hconstant htrim (Bound.parseSegments_keys _ d.rest)⟩

end Dotted

/-- The text is read as a path. -/
def IsPath (text : List Char) : Prop :=
  ∃ root segments raw, parse text = .ok (.path root segments raw)

/-- A path begins with a character of a name. -/
theorem IsPath.exists_cons {text : List Char} (h : IsPath text)
    (hblank : ∀ c ∈ text, isBlank c = false) :
    ∃ c rest, text = c :: rest ∧ isNameChar c = true := by
  obtain ⟨root, segments, raw, h⟩ := h
  have hroot : (text.takeWhile isNameChar).isEmpty = false := by
    rw [parse_eq, trim_eq_self hblank] at h
    split at h
    · cases h
    · split at h
      · obtain ⟨first, -, h⟩ := bind_eq_ok_iff.1 h
        obtain ⟨last, -, h⟩ := bind_eq_ok_iff.1 h
        cases h
      · split at h
        · obtain ⟨items, -, h⟩ := map_eq_ok_iff.1 h
          cases h
        · rw [parsePath] at h
          dsimp only at h
          split at h
          · cases h
          · next hroot => exact Bool.eq_false_iff.2 hroot
  cases text with
  | nil => cases hroot
  | cons c rest =>
    refine ⟨c, rest, rfl, ?_⟩
    rw [List.takeWhile_cons] at hroot
    split at hroot
    · next hc => exact hc
    · cases hroot

/-- An integer is digits with a minus or without. -/
def IsInteger (text : List Char) : Prop := Decimal.isDigits (splitMinus text).2 = true

namespace IsInteger

variable {text : List Char}

theorem ne_nil (h : IsInteger text) : text ≠ [] := by
  rintro rfl
  cases h

theorem isNameChar (h : IsInteger text) : ∀ c ∈ text, isNameChar c = true := by
  intro c hc
  unfold IsInteger splitMinus at h
  split at h
  · rcases List.mem_cons.1 hc with rfl | hc
    · rfl
    · exact isNameChar_of_isAsciiDigit (Decimal.isAsciiDigit_of_mem h hc)
  · exact isNameChar_of_isAsciiDigit (Decimal.isAsciiDigit_of_mem h hc)

/-- It is read as an integer, or as a name if it does not have 64 bits. -/
theorem exists_parse (h : IsInteger text) : ∃ e, parse text = .ok e := by
  have hparse := Dotted.exists_parse ⟨⟨text, h.ne_nil, h.isNameChar⟩, []⟩
  rwa [Dotted.text, List.flatMap_nil, List.append_nil] at hparse

end IsInteger

end Expression

end Liquid
