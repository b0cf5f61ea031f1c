import Liquid.Proofs.Filter.Standard
import Liquid.Proofs.Text.Entities
import Liquid.Proofs.Text.Percent

/-!
# Escaping filters

`url_encode` and `escape` can be taken back, so that no two texts are written alike, and what they
write consists of harmless characters. `escape_once` does nothing to text that is escaped.

- `FilterRegistry.apply_onText`, `FilterRegistry.apply_onTextUnlessNil`: filters on a string;
  `FilterRegistry.eq_of_apply_eq`: a filter that can be taken back.
- `Filter.url_decode_encode`: `url_encode` and `url_decode`.
- `Filter.escape_escape_once`: `escape` and `escape_once`.
-/

namespace Liquid

open Liquid.Text

namespace FilterRegistry

variable {name : String} {f : List Char → List Char}

theorem apply_onText (h : (name, Filter.onText f) ∈ Filter.textual) (s : String)
    (arguments : List Value) :
    standard.apply name (.string s) arguments = .ok (.ofChars (f s.toList)) :=
  apply_textual h (.string s) arguments

theorem apply_onTextUnlessNil (h : (name, Filter.onTextUnlessNil f) ∈ Filter.textual) (s : String)
    (arguments : List Value) :
    standard.apply name (.string s) arguments = .ok (.ofChars (f s.toList)) :=
  apply_textual h (.string s) arguments

/-- A filter that can be taken back makes different texts of different ones. -/
theorem eq_of_apply_eq (h : (name, Filter.onTextUnlessNil f) ∈ Filter.textual)
    {back : List Char → List Char} (hback : ∀ s, back (f s) = s) {s s' : String}
    {arguments arguments' : List Value}
    (heq : standard.apply name (.string s) arguments =
      standard.apply name (.string s') arguments') : s = s' := by
  rw [apply_onTextUnlessNil h, apply_onTextUnlessNil h, Except.ok.injEq, Value.ofChars,
    Value.ofChars, Value.string.injEq, String.ofList_inj] at heq
  rw [← String.toList_inj, ← hback s.toList, heq, hback]

theorem apply_escape (s : String) (arguments : List Value) :
    standard.apply "escape" (.string s) arguments = .ok (.ofChars (Html.escape s.toList)) :=
  apply_onTextUnlessNil (by simp [Filter.textual]) s arguments

theorem apply_escapeOnce (s : String) (arguments : List Value) :
    standard.apply "escape_once" (.string s) arguments =
      .ok (.ofChars (Html.escapeOnce s.toList)) :=
  apply_onText (by simp [Filter.textual]) s arguments

theorem apply_urlEncode (s : String) (arguments : List Value) :
    standard.apply "url_encode" (.string s) arguments = .ok (.ofChars (Percent.encode s.toList)) :=
  apply_onTextUnlessNil (by simp [Filter.textual]) s arguments

theorem apply_urlDecode (s : String) (arguments : List Value) :
    standard.apply "url_decode" (.string s) arguments = .ok (.ofChars (Percent.decode s.toList)) :=
  apply_onTextUnlessNil (by simp [Filter.textual]) s arguments

end FilterRegistry

namespace Filter

open FilterRegistry

/-- Different texts are encoded differently, and decoding gives the text back. What is written are
letters, digits, the marks that stay, `+`, and bytes in hexadecimal digits; a `+` stands for each
space, and for nothing else. -/
theorem url_decode_encode (s : String) (arguments arguments' : List Value) :
    (∃ t : String,
      FilterRegistry.standard.apply "url_encode" (.string s) arguments = .ok (.string t) ∧
      FilterRegistry.standard.apply "url_decode" (.string t) arguments' = .ok (.string s) ∧
      Percent.Encoded t.toList ∧
      ∃ pieces : List (List Char), t.toList = pieces.flatten ∧
        List.Forall₂ Percent.Writes s.toList pieces) ∧
    ∀ s' : String, FilterRegistry.standard.apply "url_encode" (.string s) arguments =
      FilterRegistry.standard.apply "url_encode" (.string s') arguments' → s = s' := by
  constructor
  · refine ⟨String.ofList (Percent.encode s.toList), apply_urlEncode s arguments, ?_, ?_, ?_⟩
    · rw [apply_urlDecode, String.toList_ofList, Percent.decode_encode, Value.ofChars,
        String.ofList_toList]
    · rw [String.toList_ofList]
      exact Percent.encoded_encode s.toList
    · rw [String.toList_ofList]
      exact Percent.exists_pieces s.toList
  · exact fun s' => eq_of_apply_eq (by simp [textual]) Percent.decode_encode

/-- Both filters write text without brackets and quotes, in which every `&` begins an entity, and
`escape_once` leaves such output as it is. Different texts are escaped differently by `escape`, and
turning its entities back gives the text. An entity of the text stays where it is under
`escape_once`, which does to the text on either side what it does to that text alone. -/
theorem escape_escape_once (s : String) (arguments arguments' : List Value) :
    (∃ t : String,
      FilterRegistry.standard.apply "escape" (.string s) arguments = .ok (.string t) ∧
      FilterRegistry.standard.apply "escape_once" (.string t) arguments' = .ok (.string t) ∧
      Html.Harmless t.toList ∧ Html.unescape t.toList = s.toList) ∧
    (∃ t : String,
      FilterRegistry.standard.apply "escape_once" (.string s) arguments = .ok (.string t) ∧
      FilterRegistry.standard.apply "escape_once" (.string t) arguments' = .ok (.string t) ∧
      Html.Harmless t.toList) ∧
    (∀ s' : String, FilterRegistry.standard.apply "escape" (.string s) arguments =
      FilterRegistry.standard.apply "escape" (.string s') arguments' → s = s') ∧
    ∀ u e v : String, s = u ++ e ++ v → Html.Entity e.toList → ∃ u' v' : String,
      FilterRegistry.standard.apply "escape_once" (.string u) arguments = .ok (.string u') ∧
      FilterRegistry.standard.apply "escape_once" (.string v) arguments = .ok (.string v') ∧
      FilterRegistry.standard.apply "escape_once" (.string s) arguments =
        .ok (.string (u' ++ e ++ v')) := by
  have hstays : ∀ t : List Char, Html.Escaped t →
      FilterRegistry.standard.apply "escape_once" (.string (String.ofList t)) arguments' =
        .ok (.string (String.ofList t)) := by
    intro t ht
    rw [apply_escapeOnce, String.toList_ofList, Html.escapeOnce_of_escaped ht]
    rfl
  refine ⟨?_, ?_, ?_, ?_⟩
  · have hescaped := Html.escaped_escape s.toList
    refine ⟨_, apply_escape s arguments, hstays _ hescaped, ?_, ?_⟩
    · rw [String.toList_ofList]
      exact hescaped.harmless
    · rw [String.toList_ofList, Html.unescape_escape]
  · have hescaped := Html.escaped_escapeOnce s.toList
    refine ⟨_, apply_escapeOnce s arguments, hstays _ hescaped, ?_⟩
    rw [String.toList_ofList]
    exact hescaped.harmless
  · exact fun s' => eq_of_apply_eq (by simp [textual]) Html.unescape_escape
  · rintro u e v rfl he
    refine ⟨_, _, apply_escapeOnce u arguments, apply_escapeOnce v arguments, ?_⟩
    rw [apply_escapeOnce, String.toList_append, String.toList_append,
      Html.escapeOnce_append_entity he, Value.ofChars, String.ofList_append, String.ofList_append,
      String.ofList_toList]

end Filter

end Liquid
