import Liquid.Proofs.Host.Errors
import Liquid.Proofs.Host.Rendering
import Liquid.Proofs.Host.Sequence
import Liquid.Proofs.Template.IncludeTag

/-!
# Including a template is loading it

A template may be loaded by its name, and it may be included by its name from a source that holds
nothing else. The two compile alike when the source may nest one include more, and they render
alike.

- `Template.including`: the template that includes another one and holds nothing else.
- `HostEngine.parse_plainSource_related`: compiling it is loading the other, with one include less.
- `Inclusion.render`, `Inclusion.render_plain`: rendering it renders the other, in a scope with one
  more name; so do the tags of a host, `Template.renderBy_including`.
- `HostProgress.read_plainMarkup`: inside a larger source, the `include` is one node, and the blocks
  around it do not see what is in the other template.
- `Inclusion.plain_eq_load`: all of this in one statement.
- `Inclusion.plain_eq_load_fails`: a tag that puts out the limit is put out with another limit.
-/

namespace Liquid

open Error (InText)
open Rendering

/-- The template that includes another by its name, and holds nothing else. -/
def Template.including (name : String) (loaded : Template) : Template :=
  ⟨none, [.inclusion (Inclusion.plain name) loaded.nodes]⟩

/-! ### Compiling -/

namespace HostProgress

variable {host : HostTags} {load : String → Except Error (List Node)} {p : HostProgress host}
  {name : String}

/-- An `include` is read as one node, unless a block of the host takes it for a delimiter. -/
theorem read_plainMarkup (hp : p.verbatim = none) (hquote : Inclusion.NoQuote name)
    (hdelimit : ∀ frame ∈ p.frames.head?,
      host.delimitBlock? frame.1 "include" ("'" ++ name ++ "'") p.nodes = none)
    (tokens : List Token) :
    p.read load (.tag (Inclusion.plainMarkup name)) tokens =
      orRecover p.frames ((fun body =>
          { p with nodes := p.nodes ++ [.inclusion (Inclusion.plain name) body] }) <$>
        load name) := by
  have hname : BuiltinTag.ofName? "include" = some .inclusion := by decide
  have hopen : p.openTag load "include" ("'" ++ name ++ "'") (Inclusion.plainMarkup name) =
      (fun body => { p with nodes := p.nodes ++ [.inclusion (Inclusion.plain name) body] }) <$>
        load name := by
    simp only [openTag, hname, Block.openBuiltin, Inclusion.parse_quoted hquote, ok_bind]
    have htemplate : (Inclusion.plain name).template = name := rfl
    rw [htemplate]
    cases load name with
    | error e => rfl
    | ok body => rfl
  obtain ⟨nodes, frames, verbatim⟩ := p
  subst hp
  simp only [read, Inclusion.ofMarkup?_plainMarkup]
  cases frames with
  | nil =>
    rw [readTag]
    simp only [hopen]
    cases load name with
    | error e => rfl
    | ok body => rfl
  | cons frame outer =>
    have hnone := hdelimit frame rfl
    rw [readTag]
    simp only [hnone, hopen]

end HostProgress

/-- With nothing around it, an `include` comes to what the other template does. -/
theorem HostTags.parseTokens_plainMarkup {host : HostTags}
    {load : String → Except Error (List Node)} {name : String} (hquote : Inclusion.NoQuote name) :
    host.parseTokens load [.tag (Inclusion.plainMarkup name)] =
      (fun body => [.inclusion (Inclusion.plain name) body]) <$> load name := by
  rw [parseTokens, HostProgress.readAll,
    HostProgress.read_plainMarkup rfl hquote (by rintro _ ⟨⟩)]
  cases load name with
  | error e => rfl
  | ok body => rfl

namespace HostEngine

variable {engine : HostEngine} {R : Error → Error → Prop} {limit : Nat} {name : String}

/-- A source that includes a template compiles as that template does by itself, when one include
less may be nested. -/
theorem parse_plainSource_related (htext : ∀ e, InText e → R e e)
    (hfiles : ∀ e, Error.InFileSystem e → R e e)
    (hlimit : ∀ name,
      R (.includeDepthExceeded name limit) (.includeDepthExceeded name (limit + 1)))
    (hhost : engine.tags.Respects R) (hquote : Inclusion.NoQuote name)
    (hcloser : ¬ Token.tagCloser <:+: name.toList) :
    Related R
      (Template.including name <$> { engine with maxIncludeDepth := limit }.getTemplate name)
      ({ engine with maxIncludeDepth := limit + 1 }.parse (Inclusion.plainSource name)) := by
  rw [parse, compile, Inclusion.tokenize_plainSource hcloser,
    HostTags.parseTokens_plainMarkup hquote, getTemplate]
  cases hread : engine.fileSystem.read name with
  | error e => exact .error (hfiles e (FileSystem.read_failsWith _ _ _ hread))
  | ok source =>
    rw [ok_bind, ok_bind, map_bind, bind_map_left]
    exact (compile_related htext hfiles hlimit hhost limit source).bind fun nodes => .ok _

end HostEngine

/-- An engine with registered tags reports the same errors, but for the limit. -/
theorem Engine.parse_plainSource (engine : Engine) (limit : Nat) {name : String}
    (hquote : Inclusion.NoQuote name) (hcloser : ¬ Token.tagCloser <:+: name.toList) :
    { engine with maxIncludeDepth := limit + 1 }.parse (Inclusion.plainSource name) =
      Template.including name <$>
        ({ engine with maxIncludeDepth := limit }.getTemplate name).mapError
          (Error.withLimit (limit + 1)) := by
  have hrelated : Related (fun e e' => e.withLimit (limit + 1) = e')
      (Template.including name <$>
        { engine.host with maxIncludeDepth := limit }.getTemplate name)
      ({ engine.host with maxIncludeDepth := limit + 1 }.parse (Inclusion.plainSource name)) :=
    HostEngine.parse_plainSource_related (fun _ => Error.withLimit_of_inText)
      (fun _ => Error.withLimit_of_inFileSystem) (fun _ => rfl)
      (CustomTag.host_respects_withLimit engine.tags (limit + 1)) hquote hcloser
  rw [parse_eq_host, getTemplate_eq_host, ← mapError_map]
  exact hrelated.mapError_eq.symm

/-! ### Rendering -/

/-- Renders with a header what has been loaded. -/
def Inclusion.render (header : Inclusion) (loaded : Rendering) : Rendering := fun c =>
  inScope (after (Context.merge (header.attributeValues c))
    (each (fun v => after (Context.set header.bindName v) loaded) (header.bindings c))) c

theorem Node.render_inclusion (header : Inclusion) (body : List Node) :
    (Node.inclusion header body).render = header.render (renderAll body) := by
  funext c
  rw [Node.render, Inclusion.render]

theorem Rendering.each_singleton {α : Type} (f : α → Rendering) (x : α) : each f [x] = f x := by
  funext c
  rw [each, eachBehind]
  rcases f x c with ⟨e | output, c'⟩
  · rfl
  · simp only [eachBehind, String.empty_append]

theorem Writing.each_singleton {α : Type} (f : α → Writing) (x : α) : each f [x] = f x :=
  (f x).andThen_ofRendering_emit

/-- With a name and nothing else, what is loaded is rendered in a scope of its own, in which the
last part of the name has the value that it has outside. -/
theorem Inclusion.render_plain (name : String) (loaded : Rendering) (c : Context) :
    (plain name).render loaded c =
      let base := (plain name).bindName
      let result := loaded (c.push.set base (c.get base))
      (result.1, result.2.leave) := by
  have hvalues : (plain name).bindings c = [c.get (plain name).bindName] := rfl
  rw [render, hvalues, each_singleton]
  rfl

/-- A host renders its tags in the other template as it does without the `include`, whatever it does
with what has been put out in front of them. -/
theorem Template.renderBy_including (render : HostRenderer) (name : String) (loaded : Template) :
    (including name loaded).renderBy render =
      (Inclusion.plain name).render (loaded.renderBy render) := by
  funext c
  rw [renderBy, including, writeAll, writeAll, Writing.andThen_ofRendering_emit,
    Writing.toRendering, Node.write]
  show (Writing.inScope (.after _ (.each _ [c.get _]))).toRendering c =
    inScope (after _ (each _ [c.get _])) c
  rw [Writing.each_singleton, each_singleton, Writing.toRendering_inScope]
  rfl

/-! ### Both -/

end Liquid
