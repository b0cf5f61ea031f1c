import Liquid.Proofs.Expression.Forms
import Liquid.Proofs.Render.Defined
import Liquid.Proofs.Render.Failure

/-!
# When rendering succeeds

- `Template.render_cases`: without registered tags, rendering fails in a filter that the template
  calls, or not at all. With the standard filters and without `date`, that filter is `sort`, which
  fails where more than twenty values are in an order that contradicts itself
  (`Filter.sort_failsWith`).
- `Template.not_always_renders`: and this does happen, with texts among which one value stands that
  cannot be compared with them.
-/

namespace Liquid

open Rendering

/-! ### Contradictory orders -/

/-- Texts in turn, and in their middle a value that cannot be compared with them. -/
def Value.mixed : List Value :=
  (List.replicate 5 [string "b", string "a"]).flatten ++
    bool true :: (List.replicate 5 [string "a", string "b"]).flatten

/-- The two halves are sorted on their own and merged from both ends. From the front, the value that
cannot be compared holds back the texts behind it, and all texts of the other half are taken; from
the back, some of these are taken again. -/
theorem Value.contradictory_mixed : Contradictory id mixed := by
  have hlong : ¬ mixed.length ≤ 20 := by decide
  have hshort : mixed.length ≤ 2 * Sort.shortLength := by decide
  refine ⟨Nat.lt_of_not_le hlong, ?_⟩
  rw [sortBy?, Sort.sort?, if_neg hlong, if_pos hshort, Sort.sortByRuns?, mixed]
  simp only [List.replicate, List.flatten_cons, List.flatten_nil, List.append_nil, List.cons_append,
    List.nil_append]
  rw [Sort.cutRuns]
  rfl

namespace Template

/-! ### Sorting in a template -/

/-- The tree of the template that counts the items of a sorted list. -/
def sortedSize : Template :=
  ⟨none, [.output ⟨some (.path "l" [] "l"), [⟨"sort", []⟩, ⟨"size", []⟩]⟩]⟩

theorem compile_sortedSize (engine : Engine) (depth : Nat) :
    engine.compile depth "{{ l | sort | size }}" = .ok sortedSize.nodes := by
  have htokens : tokenize "{{ l | sort | size }}" = [.output " l | sort | size "] := by
    decide +kernel
  have htrim : Text.trim " l ".toList = "l".toList := by decide +kernel
  have hpath : Expression.parse "l".toList = .ok (.path "l" [] "l") :=
    Expression.parse_name (by decide) rfl rfl
  have hpieces : Text.splitUnquoted '|' " l | sort | size ".toList =
      [" l ".toList, " sort ".toList, " size ".toList] := by decide +kernel
  have hpipeline : Pipeline.parse " l | sort | size " =
      .ok ⟨some (.path "l" [] "l"), [⟨"sort", []⟩, ⟨"size", []⟩]⟩ := by
    simp only [Pipeline.parse, hpieces, List.headD_cons, htrim, hpath]
    rfl
  rw [Engine.compile_eq, htokens, parseTokens, Progress.readAll, Progress.read, hpipeline]
  rfl

/-- What becomes of a list that is kept under the name of the template. -/
theorem render_sortedSize {items : List Value} {filters : FilterRegistry}
    (hget : Keyed.get? "sort" filters = some Filter.sort) (hsort : Value.sortBy? id items = none) :
    (sortedSize.render ⟨[[("l", .list items)]], [], filters, .none⟩).1 =
      .error .contradictoryOrder := by
  have hpath : (Expression.path "l" [] "l").evaluate ⟨[[("l", .list items)]], [], filters, .none⟩ =
      .list items := rfl
  have happly : filters.apply "sort" (.list items) [] = .error .contradictoryOrder := by
    have hitems : (Value.list items).items = items := rfl
    rw [FilterRegistry.apply, hget]
    dsimp only [Filter.sort]
    rw [hitems, hsort]
  rw [render, sortedSize, renderAll, andThen, Node.render]
  simp only [Pipeline.evaluate, Pipeline.applyAll, Option.map_some, Option.getD_some, hpath,
    List.map_nil, happly, error_bind]

/-! ### All templates -/

/-- Without registered tags, an error of a rendering is one that a filter ended in which the
template calls. Where `date` is not among the filters, it is an error of a filter of the host, or
else `sort` has been given values in an order that contradicts itself; and with standard filters
only, not even the first can be. No step of rendering is undefined. -/
theorem render_cases {engine : Engine} (htags : engine.tags = []) {depth : Nat}
    {source : String} {template : Template}
    (htemplate : engine.compile depth source = .ok template.nodes) (c : Context) :
    (∀ e, (template.render c).1 = .error e → c.filters.Raises template.Calls e)
    ∧ ((∀ entry ∈ c.filters, entry ∈ FilterRegistry.standard → entry.1 ≠ "date") →
      ∀ e, (template.render c).1 = .error e →
        (∃ name filter, template.Calls name ∧ Keyed.get? name c.filters = some filter
            ∧ (name, filter) ∉ FilterRegistry.standard
            ∧ ∃ value arguments, filter value arguments = .error e)
          ∨ (template.Calls "sort" ∧ Keyed.get? "sort" c.filters = some Filter.sort
            ∧ e = .contradictoryOrder))
    ∧ ((∀ entry ∈ c.filters, entry ∈ FilterRegistry.standard ∧ entry.1 ≠ "date") →
      (∃ output, (template.render c).1 = .ok output)
        ∨ (template.Calls "sort" ∧ Keyed.get? "sort" c.filters = some Filter.sort
          ∧ (template.render c).1 = .error .contradictoryOrder))
    ∧ RendersWithin := by
  have hfails : FailsWith (c.filters.Raises template.Calls) (template.render c).1 :=
    (engine.failsIn_of_compile htags htemplate c.filters c rfl).1
  refine ⟨hfails, fun hdate e he => (hfails e he).cases hdate, fun hstandard => ?_, rendersWithin⟩
  cases hresult : (template.render c).1 with
  | ok output => exact .inl ⟨output, rfl⟩
  | error e =>
    rcases (hfails e hresult).cases fun entry hentry _ => (hstandard entry hentry).2 with
      ⟨name, filter, -, hget, hhost, -⟩ | ⟨hcalls, hget, rfl⟩
    · exact (hhost (hstandard _ (Keyed.mem_of_get? hget)).1).elim
    · exact .inr ⟨hcalls, hget, rfl⟩

/-- Without `sort`, what `sort` could not put in order is counted as it is. -/
theorem render_cases_without_sort :
    let c : Context := ⟨[[("l", .list Value.mixed)]], [],
      FilterRegistry.standard.filter fun entry => entry.1 != "date" && entry.1 != "sort", .none⟩
    Engine.compile {} 0 "{{ l | sort | size }}" = .ok sortedSize.nodes
      ∧ (∀ entry ∈ c.filters, entry ∈ FilterRegistry.standard ∧ entry.1 ≠ "date")
      ∧ ∃ output, (sortedSize.render c).1 = .ok output := by
  intro c
  have hcompile : Engine.compile {} 0 "{{ l | sort | size }}" = .ok sortedSize.nodes :=
    compile_sortedSize {} 0
  have hfilters : ∀ entry ∈ c.filters,
      entry ∈ FilterRegistry.standard ∧ entry.1 ≠ "date" ∧ entry.1 ≠ "sort" := by
    intro entry hentry
    obtain ⟨hstandard, hname⟩ := List.mem_filter.1 hentry
    rw [Bool.and_eq_true, bne_iff_ne, bne_iff_ne] at hname
    exact ⟨hstandard, hname⟩
  have hstandard : ∀ entry ∈ c.filters, entry ∈ FilterRegistry.standard ∧ entry.1 ≠ "date" :=
    fun entry hentry => ⟨(hfilters entry hentry).1, (hfilters entry hentry).2.1⟩
  have htags : ({} : Engine).tags = [] := rfl
  obtain ⟨-, -, hcases, -⟩ := render_cases htags hcompile c
  refine ⟨hcompile, hstandard, ?_⟩
  rcases hcases hstandard with houtput | ⟨-, hsort, -⟩
  · exact houtput
  · exact ((hfilters _ (Keyed.mem_of_get? hsort)).2.2 rfl).elim

/-- With all standard filters but `date`, rendering does not always succeed. -/
theorem not_always_renders :
    ¬ ∀ (engine : Engine) (source : String) (template : Template) (c : Context),
      engine.tags = [] → engine.parse source = .ok template →
      (∀ entry ∈ c.filters, entry ∈ FilterRegistry.standard ∧ entry.1 ≠ "date") →
      ∃ output, (template.render c).1 = .ok output := by
  intro hall
  have hparse : Engine.parse {} "{{ l | sort | size }}" = .ok sortedSize := by
    rw [Engine.parse, compile_sortedSize]
    rfl
  have hfilters : ∀ entry ∈ FilterRegistry.standard.filter fun entry => entry.1 != "date",
      entry ∈ FilterRegistry.standard ∧ entry.1 ≠ "date" := by
    intro entry hentry
    obtain ⟨hstandard, hname⟩ := List.mem_filter.1 hentry
    exact ⟨hstandard, bne_iff_ne.1 hname⟩
  have hget : Keyed.get? "sort" (FilterRegistry.standard.filter fun entry => entry.1 != "date") =
      some Filter.sort := rfl
  obtain ⟨output, houtput⟩ := hall {} "{{ l | sort | size }}" sortedSize
    ⟨[[("l", .list Value.mixed)]], [],
      FilterRegistry.standard.filter fun entry => entry.1 != "date", .none⟩ rfl hparse hfilters
  rw [render_sortedSize hget Value.contradictory_mixed.2] at houtput
  cases houtput

end Template

end Liquid
