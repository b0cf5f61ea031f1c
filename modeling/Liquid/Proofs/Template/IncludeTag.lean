import Liquid.Proofs.Markup.Attributes
import Liquid.Proofs.Token.Canonical
import Liquid.Proofs.Template.Inclusions

/-!
# The plain include

An `include` of a quoted name with nothing behind it, as a template of its own.

- `Inclusion.plainSource`: the source `{% include 'name' %}`.
- `tokenize_plainSource`, `Progress.inclusion?_plainMarkup`: it is one token, which is read as the
  `include` of that name, without a value and attributes.
- `Inclusion.bindName_spec`: the name that a value is bound to is the part behind the last slash.
-/

namespace Liquid

open Text

namespace Inclusion

/-- The header of an `include` of a name, with nothing behind it. -/
def plain (name : String) : Inclusion := ⟨name, .implicit, []⟩

/-- The markup of an `include` of a quoted name. -/
def plainMarkup (name : String) : String := " include '" ++ name ++ "' "

/-- The source of an `include` of a quoted name. -/
def plainSource (name : String) : String := "\x7b%" ++ plainMarkup name ++ "%\x7d"

variable {name : String}

/-- No character of the name is a quote. -/
def NoQuote (name : String) : Prop := ∀ c ∈ name.toList, isQuote c = false

instance : Decidable (NoQuote name) :=
  List.decidableBAll (fun c => isQuote c = false) name.toList

theorem toList_plainMarkup :
    (plainMarkup name).toList = " include '".toList ++ name.toList ++ ['\'', ' '] := by
  rw [plainMarkup, String.toList_append, String.toList_append]
  rfl

theorem toList_quoted : ("'" ++ name ++ "'").toList = '\'' :: (name.toList ++ ['\'']) := by
  rw [String.toList_append, String.toList_append]
  rfl

/-- The tag is closed by its last characters, unless the name closes it. -/
theorem fits_plainMarkup (h : ¬ Token.tagCloser <:+: name.toList) (rest : List Token) :
    (Token.tag (plainMarkup name)).Fits rest := by
  show ¬ Token.tagCloser <:+: (plainMarkup name).toList
  rw [toList_plainMarkup, ← List.singleton_append (l := [' ']), ← List.append_assoc]
  intro hin
  rcases Token.pair_infix_concat hin with hin | ⟨heq, -⟩
  · rcases Token.pair_infix_concat hin with hin | ⟨heq, -⟩
    · -- the text in front of the name holds no percent sign
      have hfront : " include '".toList = [' ', 'i', 'n', 'c', 'l', 'u', 'd', 'e', ' ', '\''] := rfl
      rw [hfront] at hin
      simp only [List.cons_append, List.nil_append, List.infix_cons_iff, List.cons_prefix_cons,
        Char.reduceEq, false_and, false_or] at hin
      exact h hin
    · cases heq
  · cases heq

theorem tokenize_plainSource (h : ¬ Token.tagCloser <:+: name.toList) :
    tokenize (plainSource name) = [.tag (plainMarkup name)] := by
  have hopener : "\x7b%".toList = Token.tagOpener := rfl
  have hcloser : "%\x7d".toList = Token.tagCloser := rfl
  have hsource : (plainSource name).toList = Token.sources [.tag (plainMarkup name)] := by
    rw [plainSource, String.toList_append, String.toList_append, hopener, hcloser,
      Token.sources_cons, Token.sources_nil, List.append_nil, Token.source, String.toList_ofList]
  have hcanonical : Token.Canonical [.tag (plainMarkup name)] := ⟨fits_plainMarkup h [], trivial⟩
  rw [tokenize, hsource, Token.scan_sources hcanonical]

theorem ofMarkup?_plainMarkup :
    NamedTag.ofMarkup? (plainMarkup name) = some ("include", "'" ++ name ++ "'") := by
  have hfront : " include '".toList = ' ' :: ("include".toList ++ [' ', '\'']) := rfl
  have hword : ∀ c ∈ "include".toList, isWord c = true :=
    List.all_eq_true.1 (by decide)
  have hstart : trimStart (plainMarkup name).toList =
      "include".toList ++ (' ' :: '\'' :: (name.toList ++ ['\'', ' '])) := by
    rw [toList_plainMarkup, hfront, trimStart]
    simp only [List.append_assoc, List.cons_append, List.nil_append]
    rfl
  have hname : (trimStart (plainMarkup name).toList).takeWhile isWord = "include".toList := by
    rw [hstart, List.takeWhile_append_of_pos hword]
    rfl
  have hrest : (trimStart (plainMarkup name).toList).dropWhile isWord =
      ' ' :: '\'' :: (name.toList ++ ['\'', ' ']) := by
    rw [hstart, List.dropWhile_append_of_pos hword]
    rfl
  have htrim : trim (' ' :: '\'' :: (name.toList ++ ['\'', ' '])) =
      '\'' :: (name.toList ++ ['\'']) := by
    have hblank : trimStart (' ' :: '\'' :: (name.toList ++ ['\'', ' '])) =
        '\'' :: (name.toList ++ ['\'']) ++ [' '] := by
      rw [List.cons_append, List.append_assoc]
      rfl
    have hreverse : ('\'' :: (name.toList ++ ['\'']) ++ [' ']).reverse =
        ' ' :: '\'' :: (name.toList.reverse ++ ['\'']) := by
      simp only [List.reverse_append, List.reverse_cons, List.reverse_nil, List.nil_append,
        List.cons_append]
    rw [trim, hblank, trimEnd, hreverse]
    show ('\'' :: (name.toList.reverse ++ ['\''])).reverse = _
    rw [List.reverse_cons, List.reverse_append, List.reverse_reverse]
    rfl
  rw [NamedTag.ofMarkup?, Markup.split?]
  simp only [hname, hrest, htrim, ← toList_quoted]
  rw [if_neg (by decide), Option.map_some, String.ofList_toList, String.ofList_toList]

theorem parse_quoted (h : NoQuote name) : parse ("'" ++ name ++ "'") = .ok (plain name) := by
  have hclosed : '\'' ∉ name.toList := fun hc => absurd (h _ hc) (by decide)
  have htake := Markup.takeQuoted?_quoted (q := '\'') rfl hclosed []
  rw [List.append_nil] at htake
  have hstart : trimStart ('\'' :: (name.toList ++ ['\''])) = '\'' :: (name.toList ++ ['\'']) := rfl
  have hbinding : takeBinding? (trimStart []) = none := rfl
  have hattributes : Markup.attributes [] = [] := by rw [Markup.attributes]
  rw [parse, toList_quoted, hstart, htake]
  simp only [hbinding, hattributes, List.mapM_nil, pure_bind]
  rw [List.tail_cons, List.dropLast_concat, String.ofList_toList]
  rfl

end Inclusion

/-- The plain `include` of a name is read as such, whatever has been read. -/
theorem Progress.inclusion?_plainMarkup {p : Progress} (hp : p.verbatim = none) {name : String}
    (h : Inclusion.NoQuote name) :
    p.inclusion? (.tag (Inclusion.plainMarkup name)) = some (Inclusion.plain name) :=
  inclusion?_eq_some_iff.2 ⟨hp, _, "include", _, rfl, Inclusion.ofMarkup?_plainMarkup, by decide,
    Inclusion.parse_quoted h⟩

/-- The name that a value is bound to is the part of the template name behind the last slash. -/
theorem Inclusion.bindName_spec (header : Inclusion) :
    '/' ∉ header.bindName.toList
      ∧ (header.bindName = header.template
        ∨ ∃ directory, header.template = directory ++ "/" ++ header.bindName) := by
  have hbase : header.bindName.toList =
      (header.template.toList.reverse.takeWhile (· != '/')).reverse := by
    rw [bindName, String.toList_ofList]
  refine ⟨fun hmem => ?_, ?_⟩
  · rw [hbase, List.mem_reverse] at hmem
    exact absurd (List.all_eq_true.1 List.all_takeWhile _ hmem) (by decide)
  · have hsplit := List.takeWhile_append_dropWhile (p := (· != '/'))
      (l := header.template.toList.reverse)
    cases hbehind : header.template.toList.reverse.dropWhile (· != '/') with
    | nil =>
      rw [hbehind, List.append_nil] at hsplit
      refine .inl (String.toList_inj.1 ?_)
      rw [hbase, hsplit, List.reverse_reverse]
    | cons c directory =>
      -- the text in front of that part ends with the slash
      have hslash : c = '/' := by
        have hfirst := List.head?_dropWhile_not (· != '/') header.template.toList.reverse
        rw [hbehind] at hfirst
        simpa using hfirst
      refine .inr ⟨String.ofList directory.reverse, String.toList_inj.1 ?_⟩
      rw [hbehind, hslash] at hsplit
      have hreverse := congrArg List.reverse hsplit
      rw [List.reverse_append, List.reverse_cons, List.reverse_reverse] at hreverse
      rw [String.toList_append, String.toList_append, String.toList_ofList, hbase]
      exact hreverse.symm

end Liquid
