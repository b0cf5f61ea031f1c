import Liquid.Proofs.Loop.Segment
import Liquid.Proofs.Template.Expressions
import Liquid.Proofs.Value.DropFree

/-!
# Contexts that a template cannot tell apart

Two contexts are related somehow. If expressions have the same values in related contexts, and
contexts stay related when both are changed alike, then no tag can tell related contexts apart.

- `Value.Hereditary`: a property of values that is carried from containers to what is in them and
  back. It stands for what must be known of a value that both runs bind.
- `Condition.evaluate_congr`, `matchesSubject_congr`: conditions say the same where their
  expressions have the same values.
- `Context.Congruence`: what a relation needs. `Congruence.pipeline_eq` and those behind it say that
  pipelines, conditions and headers read the same in related contexts.
-/

namespace Liquid

/-! ### Values -/

/-- A property that a list or a dictionary has just if all its values have it. -/
structure Value.Hereditary (P : Value → Prop) : Prop where
  /-- Nil has it. -/
  nil : P .nil
  /-- Truth values have it. -/
  bool (b : Bool) : P (.bool b)
  /-- Integers have it. -/
  integer (i : Int64) : P (.integer i)
  /-- Strings have it. -/
  string (s : String) : P (.string s)
  /-- Lists have it if their items have it. -/
  list_iff {items : List Value} : P (.list items) ↔ ∀ v ∈ items, P v
  /-- Dictionaries have it if their values have it. -/
  dict_iff {entries : List (String × Value)} :
    P (.dict entries) ↔ ∀ entry ∈ entries, P entry.2

theorem Value.hereditary_true : Hereditary fun _ => True where
  nil := trivial
  bool _ := trivial
  integer _ := trivial
  string _ := trivial
  list_iff := ⟨fun _ _ _ => trivial, fun _ => trivial⟩
  dict_iff := ⟨fun _ _ _ => trivial, fun _ => trivial⟩

theorem Value.hereditary_dropFree : Hereditary DropFree where
  nil := .nil
  bool := .bool
  integer := .integer
  string := .string
  list_iff := dropFree_list_iff
  dict_iff := dropFree_dict_iff

/-- All items that a loop goes over have a property; the integers of a range have it anyway. -/
def LoopItems.All (P : Value → Prop) : LoopItems → Prop
  | range _ _ => True
  | list items => ∀ v ∈ items, P v

section

variable {P : Value → Prop}

theorem LoopItems.All.segment {items : LoopItems} (h : items.All P) (start : Nat)
    (limit : Option Nat) : (items.segment start limit).All P := by
  cases items with
  | list values =>
    exact fun v hv => h v (List.mem_of_mem_drop (List.mem_of_mem_take hv))
  | range first last =>
    have hrange : ∀ (n : Nat) (a b : Int64),
        (if n = 0 then range 1 0 else range a b).All P := by
      intro n a b
      by_cases hn : n = 0
      · rw [if_pos hn]
        trivial
      · rw [if_neg hn]
        trivial
    exact hrange _ _ _

theorem Value.Hereditary.values (hP : Hereditary P) {items : LoopItems} (h : items.All P)
    (reversed : Bool) : ∀ v ∈ items.values reversed, P v := by
  cases items with
  | list values =>
    intro v hv
    cases reversed with
    | false => exact h v hv
    | true => exact h v (List.mem_reverse.1 hv)
  | range first last =>
    intro v hv
    rw [LoopItems.values_range] at hv
    obtain ⟨n, -, rfl⟩ := List.mem_map.1 hv
    exact hP.integer _

theorem Value.Hereditary.metadata (hP : Hereditary P) (name : String) (index length : Nat) :
    ∀ entry ∈ LoopItems.metadata name index length, P entry.2 := by
  simp only [LoopItems.metadata, List.forall_mem_cons, List.not_mem_nil, false_imp_iff,
    implies_true, and_true, ofNat, hP.integer, hP.bool, hP.string]

theorem Value.Hereditary.tableMetadata (hP : Hereditary P) (name : String)
    (columns index length : Nat) :
    ∀ entry ∈ Table.metadata name columns index length, P entry.2 := by
  intro entry hentry
  rcases Keyed.mem_insertAll hentry with hloop | htable
  · exact hP.metadata name index length entry hloop
  · simp only [List.mem_cons, List.not_mem_nil, or_false] at htable
    rcases htable with rfl | rfl | rfl | rfl | rfl
    · exact hP.integer _
    · exact hP.integer _
    · exact hP.bool _
    · exact hP.bool _
    · exact hP.integer _

end

/-! ### Conditions -/

section

variable {c d : Context}

theorem Operand.evaluate_congr {o : Operand}
    (h : ∀ e ∈ o.expressions, e.evaluate c = e.evaluate d) : o.evaluate c = o.evaluate d := by
  cases o with
  | expression e => exact h e (List.mem_singleton.2 rfl)
  | empty => rfl
  | blank => rfl

theorem Comparison.evaluate_congr {comparison : Comparison}
    (h : ∀ e ∈ comparison.expressions, e.evaluate c = e.evaluate d) :
    comparison.evaluate c = comparison.evaluate d := by
  obtain ⟨left, right⟩ := comparison
  have hleft : left.evaluate c = left.evaluate d :=
    Operand.evaluate_congr fun e he => h e (List.mem_append_left _ he)
  cases right with
  | none => rw [Comparison.evaluate, Comparison.evaluate, hleft]
  | some right =>
    obtain ⟨op, right⟩ := right
    have hright : right.evaluate c = right.evaluate d := by
      refine Operand.evaluate_congr fun e he => h e (List.mem_append_right _ ?_)
      exact List.mem_flatMap.2 ⟨(op, right), List.mem_singleton.2 rfl, he⟩
    rw [Comparison.evaluate, Comparison.evaluate]
    cases left <;> cases right <;> simp only [hleft, hright]

/-- What a condition says depends on the values of its expressions alone. -/
theorem Condition.evaluate_congr {condition : Condition}
    (h : ∀ e ∈ condition.expressions, e.evaluate c = e.evaluate d) :
    condition.evaluate c = condition.evaluate d := by
  induction condition with
  | last comparison => exact Comparison.evaluate_congr h
  | join comparison word rest ih =>
    have hfirst : comparison.evaluate c = comparison.evaluate d :=
      Comparison.evaluate_congr fun e he => h e (List.mem_append_left _ he)
    have hrest := ih fun e he => h e (List.mem_append_right _ he)
    cases word with
    | and => rw [Condition.evaluate, Condition.evaluate, hfirst, hrest]
    | or => rw [Condition.evaluate, Condition.evaluate, hfirst, hrest]

theorem matchesSubject_congr (subject : Value) {values : List Expression}
    (h : ∀ e ∈ values, e.evaluate c = e.evaluate d) :
    matchesSubject subject values c = matchesSubject subject values d := by
  induction values with
  | nil => rfl
  | cons e rest ih =>
    have hrest := ih fun e' he => h e' (List.mem_cons_of_mem e he)
    rw [matchesSubject, matchesSubject, List.any_cons, List.any_cons, h e List.mem_cons_self]
    exact congrArg _ hrest

end

/-! ### Contexts -/

namespace Context

/-- A relation between contexts in which the expressions `es` have the same values, with the
property `P`, and that still holds when both contexts are changed alike. -/
structure Congruence (es : List Expression) (P : Value → Prop) (R : Context → Context → Prop) :
    Prop where
  /-- The property is one of containers just if it is one of what is in them. -/
  hereditary : Value.Hereditary P
  /-- The expressions have the same values. -/
  evaluate_eq {c d : Context} (h : R c d) {e : Expression} (he : e ∈ es) :
    e.evaluate c = e.evaluate d
  /-- Their values have the property. -/
  evaluate {c d : Context} (h : R c d) {e : Expression} (he : e ∈ es) : P (e.evaluate c)
  /-- Ranges among the expressions have the same bounds. -/
  range?_eq {c d : Context} (h : R c d) {e : Expression} (he : e ∈ es) : e.range? c = e.range? d
  /-- The filters are the same. -/
  filters_eq {c d : Context} (h : R c d) : c.filters = d.filters
  /-- Filters give values with the property if they get such values. -/
  apply {c d : Context} (h : R c d) {name : String} {v w : Value} {arguments : List Value}
    (hv : P v) (harguments : ∀ argument ∈ arguments, P argument)
    (happly : c.filters.apply name v arguments = .ok w) : P w
  /-- The registers are the same. -/
  registers_eq {c d : Context} (h : R c d) : c.registers = d.registers
  /-- A value with the property can be bound to a name. -/
  set {c d : Context} (h : R c d) (name : String) {value : Value} (hv : P value) :
    R (c.set name value) (d.set name value)
  /-- Registers can be set. -/
  setRegisterEntry {c d : Context} (h : R c d) (group key : String) (value : Value) :
    R (c.setRegisterEntry group key value) (d.setRegisterEntry group key value)
  /-- A scope can be opened. -/
  push {c d : Context} (h : R c d) : R c.push d.push
  /-- A scope can be ended if both contexts have the scopes then that they had before it. -/
  leave {c d c' d' : Context} (h : R c d) (h' : R c' d') (hc : c'.leave.scopes = c.scopes)
    (hd : d'.leave.scopes = d.scopes) : R c'.leave d'.leave

namespace Congruence

variable {es : List Expression} {P : Value → Prop} {R : Context → Context → Prop}
  (hR : Congruence es P R) {c d : Context} (h : R c d)

include hR h

theorem merge {values : List (String × Value)} (hvalues : ∀ entry ∈ values, P entry.2) :
    R (c.merge values) (d.merge values) := by
  induction values generalizing c d with
  | nil => exact h
  | cons entry rest ih =>
    exact ih (hR.set h entry.1 (hvalues entry List.mem_cons_self)) fun other hother =>
      hvalues other (List.mem_cons_of_mem entry hother)

theorem bindIteration (itemName metaName : String) {item : Value} (hitem : P item)
    {data : Keyed Value} (hdata : ∀ entry ∈ data, P entry.2) :
    R (Liquid.bindIteration itemName metaName item data c)
      (Liquid.bindIteration itemName metaName item data d) :=
  hR.set (hR.set h itemName hitem) metaName (hR.hereditary.dict_iff.2 hdata)

/-- Several expressions have the same values. -/
theorem map_evaluate_eq {exprs : List Expression} (hsub : exprs ⊆ es) :
    exprs.map (·.evaluate c) = exprs.map (·.evaluate d) :=
  List.map_congr_left fun _ he => hR.evaluate_eq h (hsub he)

theorem forall_map_evaluate {exprs : List Expression} (hsub : exprs ⊆ es) :
    ∀ v ∈ exprs.map (·.evaluate c), P v := by
  intro v hv
  obtain ⟨e, he, rfl⟩ := List.mem_map.1 hv
  exact hR.evaluate h (hsub he)

theorem applyAll_eq {calls : List FilterCall}
    (hsub : ∀ call ∈ calls, call.arguments ⊆ es) {v : Value} (hv : P v) :
    Pipeline.applyAll c calls v = Pipeline.applyAll d calls v
      ∧ ∀ w, Pipeline.applyAll c calls v = .ok w → P w := by
  induction calls generalizing v with
  | nil =>
    refine ⟨rfl, fun w hw => ?_⟩
    cases hw
    exact hv
  | cons call rest ih =>
    have harguments := hsub call List.mem_cons_self
    rw [Pipeline.applyAll, Pipeline.applyAll, ← hR.filters_eq h, ← hR.map_evaluate_eq h harguments]
    cases happly : c.filters.apply call.name v (call.arguments.map (·.evaluate c)) with
    | error e =>
      refine ⟨rfl, fun w hw => ?_⟩
      cases hw
    | ok next =>
      have hnext := hR.apply h hv (hR.forall_map_evaluate h harguments) happly
      exact ih (fun call hcall => hsub call (List.mem_cons_of_mem _ hcall)) hnext

/-- A pipeline has the same value or the same error. -/
theorem pipeline_eq {p : Pipeline} (hsub : p.expressions ⊆ es) :
    p.evaluate c = p.evaluate d ∧ ∀ v, p.evaluate c = .ok v → P v := by
  have hcalls : ∀ call ∈ p.filters, call.arguments ⊆ es := fun call hcall e he =>
    hsub (List.mem_append_right _ (List.mem_flatMap.2 ⟨call, hcall, he⟩))
  rw [Pipeline.evaluate, Pipeline.evaluate]
  cases hbase : p.base with
  | none => exact hR.applyAll_eq h hcalls hR.hereditary.nil
  | some e =>
    have he : e ∈ es := by
      refine hsub (List.mem_append_left _ ?_)
      rw [hbase]
      exact List.mem_singleton.2 rfl
    rw [Option.map_some, Option.map_some, ← hR.evaluate_eq h he]
    exact hR.applyAll_eq h hcalls (hR.evaluate h he)

theorem condition_eq {condition : Condition} (hsub : condition.expressions ⊆ es) :
    condition.evaluate c = condition.evaluate d :=
  Condition.evaluate_congr fun _ he => hR.evaluate_eq h (hsub he)

theorem matchesSubject_eq (subject : Value) {values : List Expression} (hsub : values ⊆ es) :
    matchesSubject subject values c = matchesSubject subject values d :=
  matchesSubject_congr subject fun _ he => hR.evaluate_eq h (hsub he)

/-! ### Headers -/

theorem registerEntry_eq (group key : String) :
    c.registerEntry group key = d.registerEntry group key := by
  rw [registerEntry, registerEntry, hR.registers_eq h]

theorem options_eq {header : LoopHeader} (hsub : header.expressions ⊆ es) (option : String)
    (e : Expression) (hoption : Keyed.get? option header.attributes = some (.expression e)) :
    e.evaluate c = e.evaluate d :=
  hR.evaluate_eq h (hsub (List.mem_cons_of_mem _ (List.mem_flatMap.2
    ⟨_, Keyed.mem_of_get? hoption, List.mem_singleton.2 rfl⟩)))

theorem offset_eq {header : LoopHeader} (hsub : header.expressions ⊆ es) :
    header.offset c = header.offset d :=
  LoopHeader.offset_congr rfl (hR.options_eq h hsub) fun _ => hR.registerEntry_eq h _ _

theorem limit?_eq {header : LoopHeader} (hsub : header.expressions ⊆ es) :
    header.limit? c = header.limit? d :=
  LoopHeader.limit?_congr rfl (hR.options_eq h hsub)

theorem columns?_eq {header : LoopHeader} (hsub : header.expressions ⊆ es) :
    header.columns? c = header.columns? d :=
  LoopHeader.columns?_congr rfl (hR.options_eq h hsub)

theorem items_eq {header : LoopHeader} (hsub : header.expressions ⊆ es) :
    header.items c = header.items d := by
  have hcollection : header.collection ∈ es := hsub List.mem_cons_self
  rw [LoopHeader.items, LoopHeader.items, hR.range?_eq h hcollection, hR.evaluate_eq h hcollection]

/-- What a loop goes over has the property. -/
theorem all_items {header : LoopHeader} (hsub : header.expressions ⊆ es) :
    (header.items c).All P := by
  have hvalue := hR.evaluate h (hsub List.mem_cons_self : header.collection ∈ es)
  rw [LoopHeader.items]
  cases header.collection.range? c with
  | some bounds => trivial
  | none =>
    simp only
    split
    · next items heq =>
      rw [heq] at hvalue
      exact hR.hereditary.list_iff.1 hvalue
    · next entries heq =>
      rw [heq] at hvalue
      intro v hv
      obtain ⟨entry, hentry, rfl⟩ := List.mem_map.1 hv
      refine hR.hereditary.list_iff.2 fun w hw => ?_
      rcases List.mem_cons.1 hw with rfl | hw
      · exact hR.hereditary.string _
      · rw [List.mem_singleton.1 hw]
        exact hR.hereditary.dict_iff.1 hvalue entry hentry
    · intro v hv
      cases hv
    · intro v hv
      cases hv
    · intro v hv
      rw [List.mem_singleton.1 hv]
      exact hvalue

/-- A cycle emits the same in both contexts, and moves on in both. -/
theorem step {cycle : Cycle} (hsub : cycle.expressions ⊆ es) :
    (cycle.step c).1 = (cycle.step d).1 ∧ R (cycle.step c).2 (cycle.step d).2 := by
  have hkey : cycle.keyIn c = cycle.keyIn d := by
    rw [Cycle.keyIn, Cycle.keyIn]
    cases hgroup : cycle.group with
    | none => rfl
    | some group =>
      have he : group ∈ es := by
        refine hsub (List.mem_append_left _ ?_)
        rw [hgroup]
        exact List.mem_singleton.2 rfl
      simp only [hR.evaluate_eq h he]
  have hposition : cycle.position c = cycle.position d := by
    rw [Cycle.position, Cycle.position, ← hkey, hR.registerEntry_eq h]
  -- the position picks one of the values
  have hvalue : cycle.values.getD (cycle.position c) cycle.first ∈ es := by
    refine hsub (List.mem_append_right _ ?_)
    rw [List.getD_eq_getElem?_getD]
    cases hget : cycle.values[cycle.position c]? with
    | none => exact List.mem_cons_self
    | some e => exact List.mem_of_getElem? hget
  rw [Cycle.step, Cycle.step, ← hkey, ← hposition]
  exact ⟨by rw [hR.evaluate_eq h hvalue], hR.setRegisterEntry h _ _ _⟩

theorem attributeValues_eq {header : Inclusion} (hsub : header.expressions ⊆ es) :
    header.attributeValues c = header.attributeValues d
      ∧ ∀ entry ∈ header.attributeValues c, P entry.2 := by
  have hoption : ∀ option ∈ header.attributes, option.2 ∈ es := fun option hoption =>
    hsub (List.mem_append_right _ (List.mem_map_of_mem hoption))
  constructor
  · refine List.map_congr_left fun option hmem => ?_
    rw [hR.evaluate_eq h (hoption option hmem)]
  · intro entry hentry
    obtain ⟨option, hmem, rfl⟩ := List.mem_map.1 hentry
    exact hR.evaluate h (hoption option hmem)

theorem bindings_eq {header : Inclusion} (hsub : header.expressions ⊆ es) :
    header.bindings c = header.bindings d ∧ ∀ v ∈ header.bindings c, P v := by
  have hsource : header.source ⊆ es := (List.append_subset.1 hsub).1
  rw [Inclusion.source] at hsource
  rw [Inclusion.bindings, Inclusion.bindings]
  cases hbinding : header.binding with
  | implicit =>
    rw [hbinding] at hsource
    rw [Context.get, Context.get]
    cases hparse : Expression.parse header.bindName.toList with
    | error e =>
      refine ⟨rfl, fun v hv => ?_⟩
      rw [List.mem_singleton.1 hv]
      exact hR.hereditary.nil
    | ok e =>
      -- the bound name is one of the expressions
      have he : e ∈ es := by
        refine hsource ?_
        rw [hparse]
        exact List.mem_singleton.2 rfl
      simp only [hR.evaluate_eq h he]
      refine ⟨trivial, fun v hv => ?_⟩
      rw [List.mem_singleton.1 hv, ← hR.evaluate_eq h he]
      exact hR.evaluate h he
  | value e =>
    rw [hbinding] at hsource
    have he : e ∈ es := hsource (List.mem_singleton.2 rfl)
    simp only [← hR.evaluate_eq h he]
    refine ⟨trivial, fun v hv => ?_⟩
    rw [List.mem_singleton.1 hv]
    exact hR.evaluate h he
  | each e =>
    rw [hbinding] at hsource
    have he : e ∈ es := hsource (List.mem_singleton.2 rfl)
    have hvalue := hR.evaluate h he
    simp only [← hR.evaluate_eq h he]
    refine ⟨trivial, ?_⟩
    split
    · next items heq =>
      rw [heq] at hvalue
      exact hR.hereditary.list_iff.1 hvalue
    · intro v hv
      rw [List.mem_singleton.1 hv]
      exact hvalue


end Congruence

end Context

end Liquid
