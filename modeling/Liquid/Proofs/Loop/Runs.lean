import Liquid.Engine

/-!
# The runs of loops

While templates are rendered in one context, `for` tags begin to go over something again and again:
in bodies, in included templates, and in one template after another. Between any two of one name the
context remembers where the first of the two stopped.

- `LoopRun`: a `for` that has something to go over, in the context in which it begins.
- `LoopRun.render_eq`: what it renders then.
- `Context.bookmark`: what is remembered of the loops of a name.
- `LoopRun.Chained`: behind every run of a name, up to the next one, the name has the bookmark of
  that run.
-/

namespace Liquid

open Rendering

/-! ### Runs -/

/-- A `for` that has something to go over, as it begins. -/
structure LoopRun where
  /-- The header of the `for`. -/
  header : LoopHeader
  /-- The context in which it begins. -/
  context : Context

namespace LoopRun

variable (run : LoopRun)

/-- What the collection of the loop is. -/
def items : LoopItems := run.header.items run.context

/-- The position at which the loop begins. -/
def start : Nat := run.header.offset run.context

/-- How many items the loop takes at most. -/
def limit? : Option Nat := run.header.limit? run.context

/-- The part of the collection that the loop goes over. -/
def part : LoopItems := run.items.segment run.start run.limit?

/-- The items that the loop goes over, front to back. -/
def visited : List Value := run.part.values false

/-- What is remembered of the loop. -/
def bookmark : Value := .ofNat (run.start + run.part.length)

/-- The context in which the loop goes over its items. -/
def marked : Context :=
  run.context.setRegisterEntry LoopHeader.bookmarks run.header.name run.bookmark

/-- Binds the item of an iteration and its number. -/
def bind (item : Value × Nat) : Context → Context :=
  bindIteration run.header.itemName "forloop" item.1
    (LoopItems.metadata run.header.name item.2 run.part.length)

/-- A loop goes over its items in order, or back to front. -/
theorem render_eq (body otherwise : List Node) (h : run.items.length ≠ 0) :
    (Node.loop run.header body otherwise).render run.context =
      inScope (each (fun item => after (run.bind item) (renderAll body))
        (run.part.values run.header.reversed).zipIdx) run.marked := by
  have hitems : ¬ (run.header.items run.context).length = 0 := h
  rw [Node.render]
  simp only [if_neg hitems, LoopItems.renderEach_eq_each]
  rfl

end LoopRun

/-! ### Bookmarks -/

namespace Context

/-- What is remembered of the loops of a name. -/
def bookmark (name : String) (c : Context) : Value := c.registerEntry LoopHeader.bookmarks name

theorem registerEntry_setRegisterEntry (group group' key key' : String) (value : Value)
    (c : Context) :
    (c.setRegisterEntry group key value).registerEntry group' key' =
      if group = group' ∧ key = key' then value else c.registerEntry group' key' := by
  rw [registerEntry, setRegisterEntry, setRegister, Keyed.get?_insert]
  by_cases hgroup : group = group'
  · subst hgroup
    simp only [if_true, Keyed.get?_insert, true_and]
    by_cases hkey : key = key'
    · rw [if_pos hkey, if_pos hkey]
      rfl
    · rw [if_neg hkey, if_neg hkey, registerEntry]
      rcases Keyed.get? group c.registers with _ | value
      · rfl
      · cases value <;> rfl
  · rw [if_neg hgroup, if_neg fun h => hgroup h.1, registerEntry]

theorem bookmark_setRegisterEntry (name key : String) (value : Value) (c : Context) :
    (c.setRegisterEntry LoopHeader.bookmarks key value).bookmark name =
      if key = name then value else c.bookmark name := by
  rw [bookmark, registerEntry_setRegisterEntry]
  simp only [true_and]
  rfl

end Context

/-- When the bookmark of `name` is `first` at the beginning and `last` at the end, each run of that
name begins with the bookmark of the one in front of it. -/
def LoopRun.Chained (name : String) (first : Value) : List LoopRun → (last : Value) → Prop
  | [], last => last = first
  | run :: rest, last =>
    if run.header.name = name then
      run.context.bookmark name = first ∧ Chained name run.bookmark rest last
    else Chained name first rest last

theorem LoopRun.chained_append_iff {name : String} {first last : Value}
    {runs more : List LoopRun} :
    Chained name first (runs ++ more) last ↔
      ∃ middle, Chained name first runs middle ∧ Chained name middle more last := by
  induction runs generalizing first with
  | nil =>
    constructor
    · intro h
      exact ⟨first, rfl, h⟩
    · rintro ⟨middle, rfl, h⟩
      exact h
  | cons run rest ih =>
    simp only [List.cons_append, Chained]
    by_cases hname : run.header.name = name
    · simp only [if_pos hname, ih, exists_and_left, and_assoc]
    · simp only [if_neg hname, ih]

end Liquid
