import Liquid.Proofs.Expression.Spelling
import Liquid.Proofs.Pipeline.Names

/-!
# Pipelines as they are written

An expression and the filters behind it, each with its arguments. The text of a pipeline is split at
its bars, and that of a filter at the first colon and at the commas behind it; what is written
inside quotes and brackets stands in the way of none of these cuts.

- `FilterCall.Spelling`, `Pipeline.Spelling`: filter calls and pipelines as they are written.
- `FilterCall.Spelling.parse_text`: the text of a filter call is read as the call.
- `Pipeline.Spelling.reads_back`: so is that of a pipeline, and of the expression in it.
-/

namespace Liquid

open Text Expression

/-! ### Filter calls -/

namespace FilterCall

/-- A filter call as it is written. -/
structure Spelling where
  /-- The name of the filter. -/
  name : List Char
  /-- It is made of letters, digits and `_`. -/
  isName : FilterCall.isName name = true
  /-- The arguments. -/
  arguments : List Expression.Spelling

/-- The arguments of a filter behind a colon; nothing where there are none. -/
def argumentsText : List Expression.Spelling → List Char
  | [] => []
  | e :: rest => ':' :: ' ' :: [',', ' '].intercalate (itemTexts (e :: rest))

namespace Spelling

/-- A filter call as it is written. -/
def text (call : Spelling) : List Char := call.name ++ argumentsText call.arguments

/-- The filter call that a text stands for. -/
def filterCall (call : Spelling) : FilterCall :=
  ⟨String.ofList call.name, expressions call.arguments⟩

variable (call : Spelling)

theorem name_ne_nil : call.name ≠ [] := (isName_iff.1 call.isName).1

theorem isNameChar_of_mem : ∀ c ∈ call.name, FilterCall.isNameChar c = true :=
  (isName_iff.1 call.isName).2

theorem tight_name : Tight call.name :=
  .of_forall call.name_ne_nil fun c hc =>
    FilterCall.not_isBlank_of_isNameChar (call.isNameChar_of_mem c hc)

theorem tight : Tight call.text := by
  cases harguments : call.arguments with
  | nil =>
    rw [text, harguments, argumentsText, List.append_nil]
    exact call.tight_name
  | cons e rest =>
    rw [text, harguments]
    exact call.tight_name.append_append [':', ' ']
      (tight_intercalate_items (List.cons_ne_nil e rest))

/-- No bar stands in a filter call outside quotes and brackets. -/
theorem balanced : Balanced (· != '|') call.text := by
  have hname : Balanced (· != '|') call.name := .of_forall fun c hc =>
    ⟨FilterCall.isMark_of_isNameChar (call.isNameChar_of_mem c hc),
      bne_iff_ne.2 (ne_of_class (call.isNameChar_of_mem c hc) rfl)⟩
  have hgap : Balanced (· != '|') [',', ' '] := .char rfl rfl (.char rfl rfl .nil)
  refine hname.append ?_
  cases call.arguments with
  | nil => exact .nil
  | cons e rest =>
    exact .char rfl rfl (.char rfl rfl (hgap.intercalate fun t ht =>
      balanced_ne (balanced_items (e :: rest) t ht) rfl))

theorem split_text :
    FilterCall.split call.text = (call.name, trim ((argumentsText call.arguments).drop 1)) := by
  have hname : ∀ c ∈ call.name, isQuote c = false ∧ c ≠ ':' := fun c hc =>
    ⟨FilterCall.isQuote_of_isNameChar (call.isNameChar_of_mem c hc),
      ne_of_class (call.isNameChar_of_mem c hc) rfl⟩
  rw [FilterCall.split, text, cutUnquoted?_append hname]
  cases call.arguments with
  | nil =>
    rw [argumentsText, List.append_nil]
    rfl
  | cons e rest =>
    show (trim (call.name ++ []), _) = _
    rw [List.append_nil, call.tight_name.trim_eq]
    rfl

/-- The text of a filter call is read as the call, whatever pipeline it stands in. -/
theorem parse_text (markup : String) :
    FilterCall.parse markup call.text = .ok call.filterCall := by
  rw [FilterCall.parse, call.split_text, filterCall]
  simp only [call.isName]
  cases call.arguments with
  | nil =>
    rw [expressions]
    rfl
  | cons e rest =>
    have htight := tight_intercalate_items (List.cons_ne_nil e rest)
    have htrim : trim ((argumentsText (e :: rest)).drop 1)
        = [',', ' '].intercalate (itemTexts (e :: rest)) := by
      have hspace := htight.trim_surrounded allBlank_space allBlank_nil
      rwa [List.append_nil] at hspace
    rw [htrim, List.isEmpty_eq_false_iff.2 htight.ne_nil,
      mapM_parse_items (List.cons_ne_nil e rest), mapM_parse_itemTexts]
    rfl

end Spelling

end FilterCall

/-! ### Pipelines -/

namespace Pipeline

/-- A pipeline as it is written. -/
structure Spelling where
  /-- The expression at its beginning. -/
  base : Expression.Spelling
  /-- The filters. -/
  filters : List FilterCall.Spelling

namespace Spelling

/-- A pipeline as it is written: bars with a space on both sides between its parts. -/
def text (p : Spelling) : List Char :=
  [' ', '|', ' '].intercalate (p.base.text :: p.filters.map (·.text))

/-- The pipeline that a text stands for. -/
def pipeline (p : Spelling) : Pipeline :=
  ⟨some p.base.expression, p.filters.map (·.filterCall)⟩

/-- The parts of a pipeline are split at the bars between them only. -/
theorem balanced_parts (p : Spelling) :
    ∀ t ∈ p.base.text :: p.filters.map (·.text), Balanced (· != '|') t ∧ Tight t := by
  intro t ht
  rcases List.mem_cons.1 ht with rfl | ht
  · exact ⟨balanced_ne p.base.balanced rfl, p.base.tight⟩
  · obtain ⟨call, -, rfl⟩ := List.mem_map.1 ht
    exact ⟨call.balanced, call.tight⟩

theorem mapM_parse_filters (markup : String) (filters : List FilterCall.Spelling) :
    (filters.map (·.text)).mapM (FilterCall.parse markup) = .ok (filters.map (·.filterCall)) := by
  induction filters with
  | nil => rfl
  | cons call rest ih =>
    rw [List.map_cons, List.mapM_cons, call.parse_text, ih]
    rfl

/-- The text of a pipeline is read as the pipeline, and that of its expression as the
expression. -/
theorem reads_back (p : Spelling) :
    Pipeline.parse (String.ofList p.text) = .ok p.pipeline
      ∧ Expression.parse p.base.text = .ok p.base.expression := by
  refine ⟨?_, p.base.parse_text⟩
  have hpieces : (splitUnquoted '|' p.text).map trim = p.base.text :: p.filters.map (·.text) :=
    map_trim_splitUnquoted rfl rfl allBlank_space allBlank_space (List.cons_ne_nil _ _)
      p.balanced_parts
  obtain ⟨first, rest, hsplit, hfirst, hrest⟩ := List.map_eq_cons_iff.1 hpieces
  have hfilters : (rest.mapM fun piece => FilterCall.parse (String.ofList p.text) (trim piece))
      = .ok (p.filters.map (·.filterCall)) := by
    have hparse := mapM_parse_filters (String.ofList p.text) p.filters
    rwa [← hrest, List.mapM_map] at hparse
  rw [Pipeline.parse, String.toList_ofList, hsplit]
  simp only [List.headD_cons, List.tail_cons, hfirst, hfilters,
    List.isEmpty_eq_false_iff.2 p.base.tight.ne_nil, p.base.parse_text]
  rfl

/-- A path with an index, and a filter with a bar in its argument. -/
example :
    let root : Root := ⟨⟨['p'], by decide, List.all_eq_true.1 rfl⟩, by decide⟩
    let key : Name := ⟨['k'], by decide, List.all_eq_true.1 rfl⟩
    let base := Expression.Spelling.path root (.index (.integer 0)) [.key key]
    let argument := Expression.Spelling.string '"' "a|'b'".toList (by decide) (by decide)
    text ⟨base, [⟨"append".toList, by decide, [argument, .nil]⟩]⟩
      = "p[0].k | append: \"a|'b'\", nil".toList := by
  decide

end Spelling

end Pipeline

end Liquid
