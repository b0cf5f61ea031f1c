import Liquid.Proofs.Expression.Forms
import Liquid.Proofs.Render.Agreement
import Liquid.Proofs.Render.Simulation
import Liquid.Proofs.Template.Inclusions
import Liquid.Proofs.Template.Literals

/-!
# What a rendering depends on

A template reads variables only under the names that its paths begin with. Other variables, and how
scopes are stacked, never show in its output.

- `renderAll_respects`: nodes respect agreement on their expressions.
- `Template.render_eq_of_roots`: a compiled template renders alike in contexts that give its roots
  the same values.
- `Template.render_ne_of_roots`: unless a filter makes a drop that reads another variable.
-/

namespace Liquid

/-- Nodes respect agreement on their expressions. -/
theorem renderAll_respects {es : List Expression} (nodes : List Node)
    (hsub : expressionsAll nodes ⊆ es) : (renderAll nodes).Respects (Context.Agree es) :=
  (Context.Agree.congruence es).renderAll_respects nodes hsub

/-- A compiled template depends on the names that its paths begin with, and on no other variables.
In contexts that give these names the same values, however many scopes they have, it comes to the
same output or the same error, and leaves the same registers.

No context is without a scope. A filter that is not a standard one is the host's. It must not make
drops, or else the attributes of drops must not depend on variables. -/
theorem Template.render_eq_of_roots {engine : Engine} {depth : Nat} {source : String}
    {template : Template} (htemplate : engine.compile depth source = .ok template.nodes)
    {c d : Context} (hc : 0 < c.depth) (hd : 0 < d.depth) (hleft : c.DropFree) (hright : d.DropFree)
    (hregisters : c.registers = d.registers) (hfilters : c.filters = d.filters)
    (hhost : (∀ entry ∈ c.filters, entry ∈ FilterRegistry.standard ∨ Filter.KeepsDropFree entry.2)
      ∨ (c.attributes = d.attributes ∧ c.attributes.IgnoresScopes))
    (hroots : ∀ name ∈ template.roots, c.root name = d.root name) :
    (template.render c).1 = (template.render d).1
      ∧ (template.render c).2.registers = (template.render d).2.registers := by
  have hsame : c.SameRoots (expressionsAll template.nodes) d :=
    { filters := hfilters
      registers := hregisters
      roots := fun e he name hname => hroots name (Expression.mem_rootsAll he hname)
      leftDepth := hc
      rightDepth := hd }
  rcases hhost with hhost | ⟨hattributes, hignore⟩
  · have hliterals := Engine.allDropFree_of_compile htemplate
    have hkeeps : c.filters.KeepsDropFree := by
      intro entry hentry
      rcases hhost entry hentry with hstandard | hkeeps
      · exact FilterRegistry.keepsDropFree_standard entry hstandard
      · exact hkeeps
    have hagree : c.Agree (expressionsAll template.nodes) d :=
      { hsame with
        literals := Expression.allDropFree_iff.1 hliterals
        keepsDropFree := hkeeps
        left := hleft
        right := hright }
    obtain ⟨houtput, hagree'⟩ := (renderAll_respects template.nodes (List.Subset.refl _)).run hagree
    exact ⟨houtput, hagree'.registers⟩
  · have hagree : c.AgreeWithDrops (expressionsAll template.nodes) d :=
      { hsame with
        attributes := hattributes
        ignore := hignore }
    obtain ⟨houtput, hagree'⟩ := ((Context.AgreeWithDrops.congruence _).renderAll_respects
      template.nodes (List.Subset.refl _)).run hagree
    exact ⟨houtput, hagree'.registers⟩

/-- One context has a scope more in front, with another name in it; the other has a scope more
behind, in which the name is hidden. -/
theorem Template.render_eq_of_roots_two_scopes :
    let source := "{{ item }}"
    let template : Template := ⟨none, [.output ⟨some (.path "item" [] "item"), []⟩]⟩
    let c : Context := ⟨[[("total", .integer 1)], [("item", .string "tea")]], [], .standard, .none⟩
    let d : Context :=
      ⟨[[("item", .string "tea")], [("item", .string "jam")]], [], .standard, .none⟩
    Engine.compile {} 0 source = .ok template.nodes
      ∧ template.roots = ["item"]
      ∧ (template.render c).1 = (template.render d).1
      ∧ (template.render c).2.registers = (template.render d).2.registers := by
  intro source template c d
  have htokens : tokenize source = [.output " item "] := by decide +kernel
  have htrim : Text.trim " item ".toList = "item".toList := by decide +kernel
  have hpath : Expression.parse "item".toList = .ok (.path "item" [] "item") :=
    Expression.parse_name (by decide) (by decide +kernel) rfl
  have hpipeline : Pipeline.parse " item " = .ok ⟨some (.path "item" [] "item"), []⟩ := by
    have hpieces : Text.splitUnquoted '|' " item ".toList = [" item ".toList] := by decide +kernel
    simp only [Pipeline.parse, hpieces, List.headD_cons, htrim, hpath]
    rfl
  have hcompile : Engine.compile {} 0 source = .ok template.nodes := by
    rw [Engine.compile, htokens, Template.parseTokens, Progress.readAll, Progress.read, hpipeline]
    rfl
  have hroots : template.roots = ["item"] := rfl
  have hleft : c.DropFree := by
    simp only [Context.DropFree, c, List.forall_mem_cons, Value.DropFree.integer,
      Value.DropFree.string, List.not_mem_nil, false_imp_iff, implies_true, and_self]
  have hright : d.DropFree := by
    simp only [Context.DropFree, d, List.forall_mem_cons, Value.DropFree.string, List.not_mem_nil,
      false_imp_iff, implies_true, and_self]
  refine ⟨hcompile, hroots, ?_⟩
  refine Template.render_eq_of_roots hcompile (by decide) (by decide) hleft hright rfl rfl
    (.inl fun entry hentry => .inl hentry) ?_
  rw [hroots, List.forall_mem_singleton]
  rfl

/-- A filter makes an object whose attributes are the value of `x`, and the template asks it for
one. The name `x` does not occur in the template. -/
theorem Template.render_ne_of_roots :
    let source := "{% assign a = 1 | make %}{{ a.k }}"
    let assigned : Pipeline := ⟨some (.literal (.integer 1)), [⟨"make", []⟩]⟩
    let template : Template :=
      ⟨none, [.assign "a" assigned, .output ⟨some (.path "a" [.key "k"] "a.k"), []⟩]⟩
    let make : Filter := fun _ _ => .ok (.drop ⟨0, "", fun _ => true, none⟩)
    let attributes : Attributes := fun _ _ view =>
      (view.scopes.findSome? (Keyed.get? "x")).getD .nil
    let c : Context := ⟨[[("x", .string "tea")]], [], [("make", make)], attributes⟩
    let d : Context := ⟨[[("x", .string "jam")]], [], [("make", make)], attributes⟩
    Engine.compile {} 0 source = .ok template.nodes
      ∧ c.DropFree ∧ d.DropFree
      ∧ (∀ name ∈ template.roots, c.root name = d.root name)
      ∧ (template.render c).1 = .ok "tea"
      ∧ (template.render d).1 = .ok "jam" := by
  intro source assigned template make attributes c d
  have htokens : tokenize source = [.tag " assign a = 1 | make ", .output " a.k "] := by
    decide +kernel
  have hassigned : Pipeline.parse "1 | make" = .ok assigned := by
    have hpieces : Text.splitUnquoted '|' "1 | make".toList = ["1 ".toList, " make".toList] := by
      decide +kernel
    have htrim : Text.trim "1 ".toList = "1".toList := by decide +kernel
    have hvalue : Expression.parse "1".toList = .ok (.literal (.integer 1)) :=
      Expression.parse_of_constant? rfl
    simp only [Pipeline.parse, hpieces, List.headD_cons, htrim, hvalue]
    rfl
  have houtput : Pipeline.parse " a.k " = .ok ⟨some (.path "a" [.key "k"] "a.k"), []⟩ := by
    have hpieces : Text.splitUnquoted '|' " a.k ".toList = [" a.k ".toList] := by decide +kernel
    have htrim : Text.trim " a.k ".toList = "a".toList ++ '.' :: "k".toList := by decide +kernel
    have hpath : Expression.parse ("a".toList ++ '.' :: "k".toList) =
        .ok (.path "a" [.key "k"] "a.k") :=
      Expression.parse_name_key (by decide) rfl (by decide) rfl rfl
    simp only [Pipeline.parse, hpieces, List.headD_cons, htrim, hpath]
    rfl
  have hassign : Block.parseAssign "a = 1 | make" = .ok (.assign "a" assigned) := by
    have hparts : Markup.assignment? "a = 1 | make".toList = some ("a".toList, "1 | make".toList) :=
      rfl
    rw [Block.parseAssign, hparts]
    simp only [String.ofList_toList, hassigned]
    rfl
  have hcompile : Engine.compile {} 0 source = .ok template.nodes := by
    have hname : NamedTag.ofMarkup? " assign a = 1 | make " = some ("assign", "a = 1 | make") := by
      decide +kernel
    have hassignTag : BuiltinTag.ofName? "assign" = some .assign := by decide
    rw [Engine.compile, htokens, Template.parseTokens, Progress.readAll,
      Progress.read_tag _ rfl hname, Progress.readTag_builtin _ hassignTag, Block.openBuiltin,
      hassign, ok_map, ok_map, ok_bind, Progress.readAll, Progress.read]
    simp only [houtput]
    rfl
  refine ⟨hcompile, ?_, ?_, ?_, rfl, rfl⟩
  · simp only [Context.DropFree, c, List.forall_mem_cons, Value.DropFree.string, List.not_mem_nil,
      false_imp_iff, implies_true, and_self]
  · simp only [Context.DropFree, d, List.forall_mem_cons, Value.DropFree.string, List.not_mem_nil,
      false_imp_iff, implies_true, and_self]
  · have hroots : template.roots = ["a"] := rfl
    rw [hroots, List.forall_mem_singleton]
    rfl

end Liquid
