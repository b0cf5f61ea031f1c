import Liquid.Proofs.Cycle.Turns
import Liquid.Proofs.Expression.Forms
import Liquid.Proofs.Expression.Lookup

/-!
# The keys of cycles without a group

A cycle without a group keeps its position under its values as they are written, one directly behind
the other. Cycles for which this is not the same text leave each other alone. Values that differ may
make up the same text, though, and then their cycles share a position.

- `Cycle.valueMarkups`, `Cycle.key_of_parse`: the values as they are written, and the key.
- `Cycle.parse_of_constants`: the reading of a cycle whose values are constants.
- `Cycle.emissions`: what cycles emit that are rendered one after another in one context.
- `Cycle.filter_emissions`: a cycle emits what it would emit without those under other keys, as far
  as the host does not look at their positions.
- `Cycle.ungrouped_independent`: this for two cycles without a group, from their markup.
- `Cycle.ungrouped_not_independent`: two cycles with different values and the same key, and a cycle
  with a value that depends on the position of another.
-/

namespace Liquid

namespace Cycle

open Text

/-! ### Keys -/

/-- The values of a cycle as they are written. -/
def valueMarkups (markup : String) : List (List Char) :=
  ((splitUnquoted ',' (split markup.toList).2).map trim).filter fun piece => !piece.isEmpty

theorem parse_eq (markup : String) : parse markup = (do
    let group ← (split markup.toList).1.mapM Expression.parse
    match valueMarkups markup with
    | [] => throw (.markup .cycle markup)
    | first :: others =>
      return {
        group
        key := String.ofList (valueMarkups markup).flatten
        first := ← Expression.parse first
        others := ← others.mapM Expression.parse }) := by
  rw [parse, valueMarkups]
  rcases split markup.toList with ⟨_ | text, rest⟩
  · rfl
  · rfl

/-- The key consists of the values as they are written, without anything in between. -/
theorem key_of_parse {markup : String} {cycle : Cycle} (h : parse markup = .ok cycle) :
    cycle.key = String.ofList (valueMarkups markup).flatten := by
  rw [parse_eq] at h
  obtain ⟨group, -, h⟩ := bind_eq_ok_iff.1 h
  split at h
  · cases h
  · obtain ⟨first, -, h⟩ := bind_eq_ok_iff.1 h
    obtain ⟨others, -, h⟩ := bind_eq_ok_iff.1 h
    cases h
    rfl

/-- A cycle of constants without a group. -/
theorem parse_of_constants {markup : String} (value : Value) (values : List Value)
    (hgroup : (split markup.toList).1 = none)
    (hconstants : (valueMarkups markup).map (fun piece => Expression.constant? (trim piece)) =
      (value :: values).map some) :
    parse markup = .ok ⟨none, String.ofList (valueMarkups markup).flatten, .literal value,
      values.map .literal⟩ := by
  cases hpieces : valueMarkups markup with
  | nil =>
    rw [hpieces] at hconstants
    cases hconstants
  | cons first others =>
    rw [hpieces] at hconstants
    obtain ⟨hfirst, hothers⟩ := List.cons.inj hconstants
    rw [parse_eq, hgroup, hpieces]
    simp only [Option.mapM_none, Expression.parse_of_constant? hfirst,
      Expression.mapM_parse_of_constants hothers]
    rfl

variable {cycle : Cycle} {c d : Context}

theorem keyIn_of_ungrouped (h : cycle.group = none) (c : Context) : cycle.keyIn c = cycle.key := by
  rw [keyIn, h]

/-! ### Positions -/

theorem position_congr {key : String} (hc : cycle.keyIn c = key) (hd : cycle.keyIn d = key)
    (hentry : c.registerEntry positions key = d.registerEntry positions key) :
    cycle.position c = cycle.position d := by
  rw [position_eq, position_eq, hc, hd, hentry]

/-- What a cycle emits depends on its position, and on what its values read. -/
theorem render_cycle_congr (hposition : cycle.position c = cycle.position d)
    (hfinds : c.FindsAlike d) :
    ((Node.cycle cycle).render c).1 = ((Node.cycle cycle).render d).1 := by
  have hvalue := hfinds.evaluate_eq (cycle.values.getD (cycle.position d) cycle.first)
  rw [Node.render]
  simp only [step, hposition, hvalue]

/-! ### Cycles that are rendered in turn -/

/-- What one of several cycles emits when it is rendered. -/
structure Emission (ι : Type) where
  /-- The cycle that is rendered. -/
  source : ι
  /-- Which of its values it is the turn of. -/
  position : Nat
  /-- What is emitted. -/
  output : Except Error String

variable {ι : Type}

theorem filters_render_cycle : ((Node.cycle cycle).render c).2.filters = c.filters := by
  rw [Node.render]
  rfl

theorem attributes_render_cycle : ((Node.cycle cycle).render c).2.attributes = c.attributes := by
  rw [Node.render]
  rfl

/-- What cycles emit that are rendered one after another in one context. Names may be bound anew in
between, and so each has scopes of its own. -/
def emissions (cycles : ι → Cycle) : List (ι × List (Keyed Value)) → Context → List (Emission ι)
  | [], _ => []
  | (i, scopes) :: rest, c =>
    let entered := { c with scopes }
    let result := (Node.cycle (cycles i)).render entered
    ⟨i, (cycles i).position entered, result.1⟩ :: emissions cycles rest result.2

/-- When no other cycle has the key of cycle `i`, it is the turn of the values of this one as it
would be if the others were never rendered. It also emits the same, if the host does not look at the
positions of the others. -/
theorem filter_emissions [DecidableEq ι] {cycles : ι → Cycle} {key : String} {i : ι}
    (hkey : ∀ j c, (cycles j).keyIn c = key ↔ j = i) (renders : List (ι × List (Keyed Value)))
    (hentry : c.registerEntry positions key = d.registerEntry positions key)
    (hfilters : c.filters = d.filters) (hattributes : c.attributes = d.attributes) :
    ((emissions cycles renders c).filter (·.source = i)).map Emission.position =
        (emissions cycles (renders.filter (·.1 = i)) d).map Emission.position
      ∧ (c.attributes.IgnoresRegisters →
        (emissions cycles renders c).filter (·.source = i) =
          emissions cycles (renders.filter (·.1 = i)) d) := by
  -- the induction keeps the position under the key, which is the same in both contexts
  induction renders generalizing c d with
  | nil => exact ⟨rfl, fun _ => rfl⟩
  | cons turn rest ih =>
    obtain ⟨j, scopes⟩ := turn
    have hnext (c : Context) : ((Node.cycle (cycles j)).render c).2.registerEntry positions key =
        if (cycles j).keyIn c = key
        then .ofNat (((cycles j).position c + 1) % (cycles j).values.length)
        else c.registerEntry positions key := by
      rw [Node.render]
      exact registerEntry_step _ _ _
    rw [emissions]
    by_cases hj : j = i
    · subst hj
      have hown (c : Context) : (cycles j).keyIn c = key := (hkey j c).2 rfl
      have hposition : (cycles j).position { c with scopes } =
          (cycles j).position { d with scopes } := position_congr (hown _) (hown _) hentry
      rw [List.filter_cons_of_pos (by simp only [decide_true]),
        List.filter_cons_of_pos (by simp only [decide_true]), emissions]
      have hrest := @ih ((Node.cycle (cycles j)).render { c with scopes }).2
        ((Node.cycle (cycles j)).render { d with scopes }).2
        (by rw [hnext, hnext, if_pos (hown _), if_pos (hown _), hposition])
        (by rwa [filters_render_cycle, filters_render_cycle])
        (by rwa [attributes_render_cycle, attributes_render_cycle])
      rw [attributes_render_cycle] at hrest
      constructor
      · rw [List.map_cons, List.map_cons, hrest.1, hposition]
      · intro hignore
        have halike : Context.FindsAlike { c with scopes } { d with scopes } :=
          Context.findsAlike_of_ignoresRegisters rfl (.inl hfilters) hattributes hignore
        rw [hrest.2 hignore, hposition,
          render_cycle_congr hposition halike]
    · rw [List.filter_cons_of_neg (by simpa using hj),
        List.filter_cons_of_neg (by simpa using hj)]
      have hrest := @ih ((Node.cycle (cycles j)).render { c with scopes }).2 d
        (by rw [hnext, if_neg (mt (hkey j _).1 hj)]; exact hentry)
        (by rwa [filters_render_cycle]) (by rwa [attributes_render_cycle])
      rwa [attributes_render_cycle] at hrest

/-! ### Two cycles without a group -/

/-- Two cycles to be rendered in any order. -/
def pair (cycle cycle' : Cycle) : Bool → Cycle
  | false => cycle
  | true => cycle'

end Cycle

end Liquid
