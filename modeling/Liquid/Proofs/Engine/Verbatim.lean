import Liquid.Proofs.Host.Sequence
import Liquid.Proofs.Token.Concatenation

/-!
# Verbatim blocks

The body of a `raw` or of a `comment` is cut into tokens as any other text, but none of them is
parsed. The body of a `raw` is put together again from its tokens; that of a comment is dropped.

- `HostProgress.readAll_verbatim`: a verbatim body is read up to the tag that closes it, and reading
  goes on behind it as if a node stood there.
- `Token.tokenize_enclosed`: the tokens of a text between two tags.
- `Engine.parse_verbatim`: what a `raw` and a `comment` with a body of any kind compile to and
  render as.
-/

namespace Liquid

open Rendering

/-- Between two tags, and in front of any other text, a text has the tokens that it has by
itself. -/
theorem Token.tokenize_enclosed {opening closing body : String}
    (hopening : ¬ tagCloser <:+: opening.toList) (hclosing : ¬ tagCloser <:+: closing.toList)
    (hopen : ∀ t ∈ tokenize body, ¬ t.IsBareOpener) (hlast : ¬ ['{'] <:+ body.toList)
    (source : String) :
    tokenize ((tag opening).source ++ body ++ (tag closing).source ++ source) =
      tag opening :: (tokenize body ++ tag closing :: tokenize source) := by
  have hbehind : scan ((tag closing).source.toList ++ source.toList) =
      tag closing :: scan source.toList := scan_tag_append hclosing
  have hhead : ∀ next ∈ (scan ((tag closing).source.toList ++ source.toList)).head?,
      ¬ next.IsText := by
    intro next hnext
    rw [hbehind] at hnext
    cases hnext
    exact not_isText_tag closing
  rw [tokenize, String.toList_append, String.toList_append, String.toList_append,
    List.append_assoc, List.append_assoc, scan_tag_append hopening,
    scan_append_of_not_isText hopen hlast hhead, hbehind]
  rfl

namespace HostProgress

variable {host : HostTags} {load : String → Except Error (List Node)}

/-- A verbatim body is read up to the tag that closes it, whatever stands in it. -/
theorem readAll_verbatim {v : Verbatim} {body more : List Token} {t : Token} {name : String}
    {node : Node} (hname : Progress.tagName? t = some name)
    (hclose : v.close? body name = some node) (nodes : List Node)
    (frames : List (host.OpenBlock × List Node)) :
    readAll load ⟨nodes, frames, some v⟩ (body ++ t :: more) =
      readAll load ⟨nodes ++ [node], frames, none⟩ more := by
  induction body generalizing v with
  | nil =>
    rw [Verbatim.close?_nil v hname] at hclose
    rw [List.nil_append, readAll, read_verbatim, hclose]
    rfl
  | cons t' body ih =>
    rw [Verbatim.close?_cons] at hclose
    have hended : v.ended? t' = none := by
      cases h : v.ended? t' with
      | none => rfl
      | some node' =>
        rw [h] at hclose
        cases hclose
    rw [hended] at hclose
    rw [List.cons_append, readAll, read_verbatim, hended]
    exact ih hclose

end HostProgress

namespace HostTags

variable {host : HostTags} {load : String → Except Error (List Node)} {body more : List Token}

/-- A verbatim body in front, with the tags around it, is one node in front. -/
theorem parseTokens_verbatim {opening closing : Token} {v : Verbatim} {name : String} {node : Node}
    (hopening : HostProgress.read load ({} : HostProgress host) opening
      (body ++ closing :: more) = .ok ⟨[], [], some v⟩)
    (hclosing : Progress.tagName? closing = some name) (hclose : v.close? body name = some node) :
    host.parseTokens load (opening :: (body ++ closing :: more)) =
      (node :: ·) <$> host.parseTokens load more := by
  rw [parseTokens, HostProgress.readAll, hopening, ok_bind,
    HostProgress.readAll_verbatim hclosing hclose, List.nil_append, finish_readAll_behind]
  rfl

theorem parseTokens_raw (h : ∀ t ∈ body, Progress.tagName? t ≠ some "endraw") :
    host.parseTokens load (.tag " raw " :: (body ++ .tag " endraw " :: more)) =
      (.raw (String.join (body.map Token.source)) :: ·) <$> host.parseTokens load more := by
  have hname : NamedTag.ofMarkup? " raw " = some ("raw", "") := by decide +kernel
  have hopening : HostProgress.read load ({} : HostProgress host) (.tag " raw ")
      (body ++ .tag " endraw " :: more) = .ok ⟨[], [], some (.raw "")⟩ := by
    simp only [HostProgress.read, hname]
    rfl
  have hclosing : Progress.tagName? (.tag " endraw ") = some "endraw" := by decide +kernel
  have hcount : Item.countTag "endraw" body = 0 :=
    List.countP_eq_zero.2 fun t ht hbeq => h t ht (beq_iff_eq.1 hbeq)
  refine parseTokens_verbatim hopening hclosing ?_
  rw [Verbatim.close?, if_pos ⟨rfl, hcount⟩, String.empty_append]

theorem parseTokens_comment (h : Item.Balanced body) :
    host.parseTokens load (.tag " comment " :: (body ++ .tag " endcomment " :: more)) =
      (.comment :: ·) <$> host.parseTokens load more := by
  have hname : NamedTag.ofMarkup? " comment " = some ("comment", "") := by decide +kernel
  have hopening : HostProgress.read load ({} : HostProgress host) (.tag " comment ")
      (body ++ .tag " endcomment " :: more) = .ok ⟨[], [], some (.comment 1)⟩ := by
    simp only [HostProgress.read, hname]
    rfl
  have hclosing : Progress.tagName? (.tag " endcomment ") = some "endcomment" := by decide +kernel
  refine parseTokens_verbatim hopening hclosing ?_
  rw [Verbatim.close?, if_pos ⟨rfl, (Verbatim.closes_one_iff body).2 h⟩]

end HostTags

namespace HostEngine

variable (engine : HostEngine) {body : String} (hopen : ∀ t ∈ tokenize body, ¬ t.IsBareOpener)
  (hlast : ¬ ['{'] <:+ body.toList) (source : String)

include hopen hlast

/-- The text of a `raw` is what is rendered. -/
theorem render_parse_raw (h : ∀ t ∈ tokenize body, Progress.tagName? t ≠ some "endraw") :
    Template.render <$> engine.parse ("{% raw %}" ++ body ++ "{% endraw %}" ++ source) =
      (fun template => (emit body).andThen template.render) <$> engine.parse source := by
  have htokens : tokenize ("{% raw %}" ++ body ++ "{% endraw %}" ++ source) =
      .tag " raw " :: (tokenize body ++ .tag " endraw " :: tokenize source) := by
    have hopening : "{% raw %}" = (Token.tag " raw ").source := by decide +kernel
    have hclosing : "{% endraw %}" = (Token.tag " endraw ").source := by decide +kernel
    rw [hopening, hclosing]
    exact Token.tokenize_enclosed (by decide +kernel) (by decide +kernel) hopen hlast source
  have htext : String.join ((tokenize body).map Token.source) = body := by
    rw [← String.toList_inj, Token.toList_join_source]
    exact Token.sources_scan body.toList
  rw [render_parse, htokens, HostTags.parseTokens_raw h, htext, parse, compile_eq]
  cases engine.tags.parseTokens (engine.included engine.maxIncludeDepth) (tokenize source) with
  | error e => rfl
  | ok nodes =>
    refine congrArg Except.ok ?_
    rw [renderAll, Node.render]
    rfl

/-- Nothing of a `comment` is rendered. -/
theorem render_parse_comment (h : Item.Balanced (tokenize body)) :
    Template.render <$> engine.parse ("{% comment %}" ++ body ++ "{% endcomment %}" ++ source) =
      Template.render <$> engine.parse source := by
  have htokens : tokenize ("{% comment %}" ++ body ++ "{% endcomment %}" ++ source) =
      .tag " comment " :: (tokenize body ++ .tag " endcomment " :: tokenize source) := by
    have hopening : "{% comment %}" = (Token.tag " comment ").source := by decide +kernel
    have hclosing : "{% endcomment %}" = (Token.tag " endcomment ").source := by decide +kernel
    rw [hopening, hclosing]
    exact Token.tokenize_enclosed (by decide +kernel) (by decide +kernel) hopen hlast source
  rw [render_parse, render_parse, htokens, HostTags.parseTokens_comment h]
  cases engine.tags.parseTokens (engine.included engine.maxIncludeDepth) (tokenize source) with
  | error e => rfl
  | ok nodes =>
    refine congrArg Except.ok ?_
    rw [renderAll, Node.render, emit_empty_andThen]

end HostEngine

end Liquid
