import Liquid.Proofs.Context.Binding
import Liquid.Proofs.Expression.Forms
import Liquid.Proofs.Expression.Roots
import Liquid.Rendering

/-!
# Scopes and their trail

A look-up goes through the scopes from the innermost out. It finds what was bound last, among all
that was bound in scopes that are still open: names are bound in the innermost scope only, and so
what stands further in was bound later.

- `Context.Action`: what a host does to scopes and registers; `Context.runAll` does several actions.
- `Context.trail`: the bindings of some actions in the order in which they were made, without those
  whose scope has ended.
- `Context.depth_runAll`: the number of scopes, from the numbers of actions.
- `Context.find?_runAll`: the last binding on the trail is found, or else one in a scope that was
  there before and is still open.
- `Context.get_runAll`: in a new context a name has the value of the last binding on the trail.
-/

namespace Liquid.Context

/-- What a host does to the scopes and the registers of a context. -/
inductive Action where
  /-- Opens a scope. -/
  | push
  /-- Closes the innermost scope, unless it is the global one. -/
  | pop
  /-- Binds a name. -/
  | set (name : String) (value : Value)
  /-- Binds names one after the other. -/
  | merge (values : List (String × Value))
  /-- Sets a register. -/
  | setRegister (name : String) (value : Value)
  /-- Sets an entry of a register. -/
  | setRegisterEntry (group key : String) (value : Value)

namespace Action

/-- Does an action, which has no output. -/
def run : Action → Rendering
  | push, c => (.ok "", c.push)
  | pop, c =>
    match c.pop? with
    | .ok outer => (.ok "", outer)
    | .error e => (.error e, c)
  | set name value, c => (.ok "", c.set name value)
  | merge values, c => (.ok "", c.merge values)
  | setRegister name value, c => (.ok "", c.setRegister name value)
  | setRegisterEntry group key value, c => (.ok "", c.setRegisterEntry group key value)

/-- The bindings that an action makes, one after the other. -/
def bindings : Action → List (String × Value)
  | set name value => [(name, value)]
  | merge values => values
  | push | pop | setRegister .. | setRegisterEntry .. => []

/-- The number of scopes behind an action, from their number in front of it. -/
def depthFrom : Action → Nat → Nat
  | push, depth => depth + 1
  | pop, depth => if 1 < depth then depth - 1 else depth
  | set .. , depth | merge _, depth | setRegister .., depth | setRegisterEntry .., depth => depth

/-- The number of scopes that an action opens. -/
def opens : Action → Nat
  | push => 1
  | pop | set .. | merge _ | setRegister .. | setRegisterEntry .. => 0

/-- The number of scopes that an action closes: a `pop` that does not fail closes one. -/
def closes : Action → Context → Nat
  | pop, c => if (pop.run c).1.isOk then 1 else 0
  | push, _ | set .., _ | merge _, _ | setRegister .., _ | setRegisterEntry .., _ => 0

/-- A scope is closed if it is not the last one. Otherwise nothing happens. -/
theorem run_pop (c : Context) :
    pop.run c = if 1 < c.depth then (.ok "", c.leave) else (.error .globalScope, c) := by
  rw [run, pop?_eq]
  by_cases hdepth : 1 < c.depth
  · rw [if_pos hdepth, if_pos hdepth]
  · rw [if_neg hdepth, if_neg hdepth]

theorem depth_run (a : Action) (c : Context) : (a.run c).2.depth = a.depthFrom c.depth := by
  cases a with
  | pop =>
    rw [run_pop, depthFrom]
    by_cases hdepth : 1 < c.depth
    · rw [if_pos hdepth, if_pos hdepth]
      exact List.length_tail
    · rw [if_neg hdepth, if_neg hdepth]
  | set name value => exact depth_set
  | merge values => exact depth_merge values c
  | push | setRegister | setRegisterEntry => rfl

theorem depth_add_closes (a : Action) (c : Context) :
    (a.run c).2.depth + a.closes c = c.depth + a.opens := by
  rw [depth_run]
  cases a with
  | pop =>
    rw [closes, run_pop, depthFrom, opens]
    by_cases hdepth : 1 < c.depth
    · rw [if_pos hdepth, if_pos hdepth]
      show c.depth - 1 + 1 = c.depth
      omega
    · rw [if_neg hdepth, if_neg hdepth]
      rfl
  | push | set | merge | setRegister | setRegisterEntry => rfl

theorem depthFrom_pos (a : Action) {depth : Nat} (h : 0 < depth) : 0 < a.depthFrom depth := by
  cases a with
  | push => exact Nat.succ_pos depth
  | pop =>
    rw [depthFrom]
    split
    · omega
    · exact h
  | set | merge | setRegister | setRegisterEntry => exact h

end Action

/-! ### Several actions -/

/-- The context behind actions that are done one after the other. One that fails does not end
them. -/
def runAll : List Action → Context → Context
  | [], c => c
  | a :: rest, c => runAll rest (a.run c).2

/-- How many scopes actions open. -/
def opened : List Action → Nat
  | [] => 0
  | a :: rest => a.opens + opened rest

/-- How many scopes actions close. -/
def closed : List Action → Context → Nat
  | [], _ => 0
  | a :: rest, c => a.closes c + closed rest (a.run c).2

/-- The least number of scopes at any time, the beginning included. -/
def lowest (depth : Nat) : List Action → Nat
  | [] => depth
  | a :: rest => min depth (lowest (a.depthFrom depth) rest)

/-- The bindings that actions make, in the order in which they make them, without those whose scope
ends: what is bound while there are `depth` scopes stays for as long as there are no fewer. -/
def trail (depth : Nat) : List Action → List (String × Value)
  | [] => []
  | a :: rest =>
    (if depth ≤ lowest (a.depthFrom depth) rest then a.bindings else [])
      ++ trail (a.depthFrom depth) rest

/-- The scopes behind some actions are those in front of them and those that they open, without
those that they close. -/
theorem depth_runAll (actions : List Action) (c : Context) :
    (runAll actions c).depth + closed actions c = c.depth + opened actions := by
  induction actions generalizing c with
  | nil => rfl
  | cons a rest ih =>
    have hfirst := a.depth_add_closes c
    have hrest := ih (a.run c).2
    rw [runAll, closed, opened]
    omega

theorem lowest_le (depth : Nat) (actions : List Action) : lowest depth actions ≤ depth := by
  cases actions with
  | nil => exact Nat.le_refl depth
  | cons a rest => exact Nat.min_le_left _ _

/-! ### What is found -/

/-- What the `n` outermost scopes have under a name. -/
def findOuter? (n : Nat) (name : String) (c : Context) : Option Value :=
  (c.scopes.drop (c.depth - n)).findSome? (Keyed.get? name)

theorem findOuter?_depth (name : String) (c : Context) :
    c.findOuter? c.depth name = c.find? name := by
  rw [findOuter?, Nat.sub_self, List.drop_zero, find?]

theorem findOuter?_congr {c d : Context} (h : c.scopes = d.scopes) (n : Nat) (name : String) :
    c.findOuter? n name = d.findOuter? n name := by
  rw [findOuter?, findOuter?, depth, depth, h]

/-- The innermost scope is not among fewer than all. -/
theorem findOuter?_leave {n : Nat} {c : Context} (hn : n < c.depth) (name : String) :
    c.leave.findOuter? n name = c.findOuter? n name := by
  have hdepth : c.leave.depth - n + 1 = c.depth - n := by
    have htail : c.leave.depth = c.depth - 1 := List.length_tail
    omega
  rw [findOuter?, findOuter?, ← hdepth, ← List.drop_tail]
  rfl

theorem findOuter?_merge {c : Context} {n : Nat} (hdepth : 0 < c.depth) (hn : n ≤ c.depth)
    (values : List (String × Value)) (name : String) :
    (c.merge values).findOuter? n name =
      ((if c.depth ≤ n then values else []).reverse.lookup name).or (c.findOuter? n name) := by
  rcases Nat.lt_or_eq_of_le hn with hlt | rfl
  · have hleave : (c.merge values).leave.scopes = c.leave.scopes := by
      obtain ⟨inner, outer, hscopes⟩ := List.exists_cons_of_length_pos hdepth
      rw [leave, leave, scopes_merge hscopes, hscopes]
      rfl
    rw [if_neg (Nat.not_le.2 hlt), ← findOuter?_leave (by rwa [depth_merge]),
      findOuter?_congr hleave, findOuter?_leave hlt]
    rfl
  · rw [if_pos (Nat.le_refl _), findOuter?_depth, ← find?_merge hdepth, ← findOuter?_depth,
      depth_merge]

/-- What an action leaves to be found in the `n` outermost scopes is what it binds there, if the
innermost scope is one of them, and behind that what was there before. -/
theorem findOuter?_run (a : Action) {c : Context} (hdepth : 0 < c.depth) {n : Nat}
    (hn : n ≤ a.depthFrom c.depth) (name : String) :
    (a.run c).2.findOuter? n name =
      ((if c.depth ≤ n then a.bindings else []).reverse.lookup name).or
        (c.findOuter? (min c.depth n) name) := by
  have hnothing : (if c.depth ≤ n then ([] : List (String × Value)) else []) = [] := ite_self _
  cases a with
  | push =>
    rw [Action.bindings, hnothing]
    show c.push.findOuter? n name = c.findOuter? (min c.depth n) name
    rcases Nat.lt_or_eq_of_le hn with hlt | rfl
    · rw [Nat.min_eq_right (Nat.le_of_lt_succ hlt), ← findOuter?_leave hlt]
      rfl
    · rw [Action.depthFrom, Nat.min_eq_left (Nat.le_succ _), findOuter?_depth]
      exact findOuter?_depth name c.push
  | pop =>
    rw [Action.bindings, hnothing, Action.run_pop]
    rw [Action.depthFrom] at hn
    by_cases hglobal : 1 < c.depth
    · rw [if_pos hglobal] at hn ⊢
      rw [Nat.min_eq_right (by omega)]
      exact findOuter?_leave (by omega) name
    · rw [if_neg hglobal] at hn ⊢
      rw [Nat.min_eq_right hn]
      rfl
  | set key value =>
    rw [Action.depthFrom] at hn
    rw [Nat.min_eq_right hn]
    exact findOuter?_merge hdepth hn [(key, value)] name
  | merge values =>
    rw [Action.depthFrom] at hn
    rw [Nat.min_eq_right hn]
    exact findOuter?_merge hdepth hn values name
  | setRegister | setRegisterEntry =>
    rw [Action.depthFrom] at hn
    rw [Action.bindings, hnothing, Nat.min_eq_right hn]
    rfl

/-- Behind some actions a look-up finds the last binding of their trail, or else what it would have
found before in the scopes that have been open all the time. -/
theorem find?_runAll (actions : List Action) {c : Context} (hdepth : 0 < c.depth) (name : String) :
    (runAll actions c).find? name =
      ((trail c.depth actions).reverse.lookup name).or
        (c.findOuter? (lowest c.depth actions) name) := by
  induction actions generalizing c with
  | nil => exact (findOuter?_depth name c).symm
  | cons a rest ih =>
    have hrest := ih (c := (a.run c).2) (by
      rw [Action.depth_run]
      exact a.depthFrom_pos hdepth)
    rw [Action.depth_run] at hrest
    rw [runAll, hrest, findOuter?_run a hdepth (lowest_le _ rest), trail, lowest,
      List.reverse_append, List.lookup_append, Option.or_assoc]

/-- What is on the trail was bound by one of the actions. -/
theorem exists_of_mem_trail {depth : Nat} {actions : List Action} {entry : String × Value}
    (h : entry ∈ trail depth actions) : ∃ a ∈ actions, entry ∈ a.bindings := by
  induction actions generalizing depth with
  | nil => cases h
  | cons a rest ih =>
    rcases List.mem_append.1 h with hfirst | hrest
    · split at hfirst
      · exact ⟨a, List.mem_cons_self, hfirst⟩
      · cases hfirst
    · obtain ⟨b, hb, hentry⟩ := ih hrest
      exact ⟨b, List.mem_cons_of_mem a hb, hentry⟩

theorem get_name {markup name raw : String}
    (hname : Expression.parse markup.toList = .ok (.path name [] raw)) (c : Context) :
    c.get markup = (c.root name).normalize := by
  rw [get, hname]
  exact Expression.evaluate_name c name raw

/-- In a new context a name has the value that was last bound to it in a scope that is still open,
and nil if there is none. A `pop` that fails changes nothing that can be looked up, and there is one
scope more than there are scopes that were opened and not closed.

The values have no drops in them, which a look-up would replace by the values they stand for. The
name is given as any markup that is read as the path of that name alone. -/
theorem get_runAll (filters : FilterRegistry) (attributes : Attributes) {actions : List Action}
    (hvalues : ∀ a ∈ actions, ∀ entry ∈ a.bindings, entry.2.DropFree) {markup name raw : String}
    (hname : Expression.parse markup.toList = .ok (.path name [] raw)) :
    let start := withFilters filters attributes
    let c := runAll actions start
    c.get markup = ((trail 1 actions).reverse.lookup name).getD .nil
      ∧ (∀ e, (Action.pop.run c).1 = .error e →
        e = .globalScope ∧ ∀ other, (Action.pop.run c).2.get other = c.get other)
      ∧ c.depth + closed actions start = 1 + opened actions := by
  intro start c
  have hfound : c.find? name = (trail 1 actions).reverse.lookup name := by
    have hdepth : 0 < start.depth := Nat.zero_lt_one
    rw [find?_runAll actions hdepth]
    -- the one scope of a new context is empty
    have hnone : ∀ n, start.findOuter? n name = none := by
      intro n
      rw [findOuter?, List.findSome?_eq_none_iff]
      intro scope hscope
      rw [List.mem_singleton.1 (List.mem_of_mem_drop hscope)]
      rfl
    rw [hnone, Option.or_none]
    rfl
  have hdropFree : ((trail 1 actions).reverse.lookup name).getD .nil |>.DropFree := by
    refine .getD fun v hv => ?_
    obtain ⟨newer, older, hsplit, -⟩ := List.lookup_eq_some_iff.1 hv
    have hmem : (name, v) ∈ trail 1 actions := by
      rw [← List.mem_reverse, hsplit]
      exact List.mem_append_right newer List.mem_cons_self
    obtain ⟨a, ha, hentry⟩ := exists_of_mem_trail hmem
    exact hvalues a ha _ hentry
  refine ⟨?_, fun e he => ?_, depth_runAll actions start⟩
  · rw [get_name hname, root, hfound, hdropFree.normalize_eq]
  · rw [Action.run_pop] at he ⊢
    by_cases hdepth : 1 < c.depth
    · rw [if_pos hdepth] at he
      cases he
    · rw [if_neg hdepth] at he ⊢
      cases he
      exact ⟨rfl, fun _ => rfl⟩

/-- The name is bound in both scopes, and the inner scope ends. The `pop` behind that one fails. -/
theorem get_runAll_shadowed :
    let actions : List Action :=
      [.set "x" (.integer 1), .push, .merge [("y", .nil), ("x", .integer 2)], .pop, .pop]
    let c := runAll actions (withFilters [])
    (∀ a ∈ actions, ∀ entry ∈ a.bindings, entry.2.DropFree)
      ∧ Expression.parse "x".toList = .ok (.path "x" [] "x")
      ∧ c.get "x" = .integer 1
      ∧ c.depth + closed actions (withFilters []) = 1 + opened actions := by
  intro actions c
  have hvalues : ∀ a ∈ actions, ∀ entry ∈ a.bindings, entry.2.DropFree := by
    simp only [actions, List.forall_mem_cons, Action.bindings, List.not_mem_nil, false_imp_iff,
      implies_true, Value.DropFree.integer, Value.DropFree.nil, and_self]
  have hname : Expression.parse "x".toList = .ok (.path "x" [] "x") :=
    Expression.parse_name (by decide) rfl rfl
  obtain ⟨hget, -, hdepth⟩ := get_runAll [] .none hvalues hname
  exact ⟨hvalues, hname, hget, hdepth⟩

end Liquid.Context
