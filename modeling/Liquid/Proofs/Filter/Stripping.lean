import Liquid.Proofs.Filter.Escaping
import Liquid.Proofs.Text.Tags

/-!
# Stripping HTML

`strip_html` leaves no tag, also where taking out a script, a style sheet or a comment puts one
together.

- `Filter.strip_html_untagged`: what the filter leaves, and of which text it leaves all.
-/

namespace Liquid

open Liquid.Text

theorem FilterRegistry.apply_stripHtml (s : String) (arguments : List Value) :
    standard.apply "strip_html" (.string s) arguments = .ok (.ofChars (Html.strip s.toList)) :=
  apply_onText (by simp [Filter.textual]) s arguments

namespace Filter

open FilterRegistry

/-- In what is left of a text no `<` has a `>` behind it. It stands in the text in the same order,
and stripping it again changes nothing. All of a text is left exactly if it is such text already, as
one without a `<` is; and what stands in front of the first `<` and behind the last `>` is always
left. -/
theorem strip_html_untagged (s : String) (arguments arguments' : List Value) :
    ∃ t : String,
      FilterRegistry.standard.apply "strip_html" (.string s) arguments = .ok (.string t) ∧
      Html.Untagged t.toList ∧
      FilterRegistry.standard.apply "strip_html" (.string t) arguments' = .ok (.string t) ∧
      t.toList.Sublist s.toList ∧
      (t = s ↔ Html.Untagged s.toList) ∧ ('<' ∉ s.toList → t = s) ∧
      ∀ a b : String, '<' ∉ a.toList → '>' ∉ b.toList →
        FilterRegistry.standard.apply "strip_html" (.string (a ++ s ++ b)) arguments =
          .ok (.string (a ++ t ++ b)) := by
  have hself : String.ofList (Html.strip s.toList) = s ↔ Html.Untagged s.toList := by
    rw [← Html.strip_eq_self_iff, ← String.toList_inj, String.toList_ofList]
  refine ⟨_, apply_stripHtml s arguments, ?_, ?_, ?_, hself, ?_, ?_⟩
  · rw [String.toList_ofList]
    exact Html.untagged_strip s.toList
  · rw [apply_stripHtml, String.toList_ofList, Html.strip_of_untagged (Html.untagged_strip _)]
    rfl
  · rw [String.toList_ofList]
    exact Html.strip_sublist s.toList
  · intro hs
    exact hself.2 (Html.untagged_of_not_mem_open hs)
  · intro a b ha hb
    rw [apply_stripHtml, String.toList_append, String.toList_append, Html.strip_surrounded ha hb,
      Value.ofChars, String.ofList_append, String.ofList_append, String.ofList_toList,
      String.ofList_toList]

/-- Where a comment is taken out of a tag, the tag is taken out, too. -/
theorem strip_html_untagged_joined :
    '<' ∉ "1 ".toList ∧ '>' ∉ " < 2".toList ∧
      FilterRegistry.standard.apply "strip_html" (.string "1 <<!-- > -->b> < 2") [] =
        .ok (.string "1  < 2") := by
  have hstrip : Html.strip "<<!-- > -->b>".toList = [] := by decide +kernel
  have hopen : '<' ∉ "1 ".toList := by decide
  have hclose : '>' ∉ " < 2".toList := by decide
  obtain ⟨t, ht, -, -, -, -, -, hsurrounded⟩ := strip_html_untagged "<<!-- > -->b>" [] []
  rw [apply_stripHtml, hstrip] at ht
  cases ht
  exact ⟨hopen, hclose, hsurrounded "1 " " < 2" hopen hclose⟩

end Filter

end Liquid
