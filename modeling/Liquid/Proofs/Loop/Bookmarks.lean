import Liquid.Proofs.Render.Visits

/-!
# The bookmarks of loops

The runs of a session are the loops among the nodes that are rendered in it, and so what is known of
all nodes tells which bookmark a run finds.

- `Session.loops`: the runs among the nodes that are rendered.
- `Visit.Chained.loops`: each run begins with the bookmark of the run of its name in front of it.
- `Session.chained`: this holds of every session. Nothing but a run of the same name changes a
  bookmark.
-/

namespace Liquid

/-- The runs of a session: the loops among the nodes that are rendered in it that have something to
go over, in the order in which they begin. -/
def Session.loops (session : Session) (c : Context) : List LoopRun :=
  (session.visits c).filterMap Visit.loop?

namespace Visit

variable {visit : Visit} {name : String} {c d : Context}

/-- Nodes that are no runs leave all bookmarks alone. -/
theorem bookmark_of_not_loop (h : visit.loop? = none) (hd : d.registers = visit.registers) :
    d.bookmark name = visit.context.bookmark name := by
  cases hcycle : visit.cycle? with
  | none => exact Context.registerEntry_congr (hd.trans (registers_eq hcycle h)) _ _
  | some run =>
    obtain ⟨hcontext, hregisters⟩ := eq_of_cycle? hcycle
    -- cycles keep their positions in a register of their own
    rw [hcontext, Context.bookmark, Context.registerEntry_congr (hd.trans hregisters), Cycle.step,
      Context.registerEntry_setRegisterEntry, if_neg fun hgroup => absurd hgroup.1 (by decide),
      Context.bookmark]

/-- Among nodes that are rendered one after another, each run of a name begins with the bookmark of
the one in front of it. -/
theorem Chained.loops {visits : List Visit} {first last : Keyed Value}
    (h : Chained first visits last) (hc : c.registers = first) (hd : d.registers = last) :
    LoopRun.Chained name (c.bookmark name) (visits.filterMap loop?) (d.bookmark name) := by
  induction visits generalizing first c with
  | nil =>
    cases h
    exact Context.registerEntry_congr (hd.trans hc.symm) _ _
  | cons visit rest ih =>
    obtain ⟨hfirst, hrest⟩ := h
    have hbookmark : visit.context.bookmark name = c.bookmark name :=
      Context.registerEntry_congr (hfirst.trans hc.symm) _ _
    cases hloop : visit.loop? with
    | none =>
      rw [List.filterMap_cons_none hloop, ← hbookmark,
        ← bookmark_of_not_loop (d := { c with registers := visit.registers }) hloop rfl]
      exact ih hrest rfl
    | some run =>
      obtain ⟨hcontext, hregisters⟩ := eq_of_loop? hloop
      have hruns := ih hrest (c := run.marked) hregisters.symm
      rw [LoopRun.marked, Context.bookmark_setRegisterEntry] at hruns
      rw [List.filterMap_cons_some hloop, LoopRun.Chained, ← hbookmark, hcontext]
      by_cases hname : run.header.name = name
      · rw [if_pos hname] at hruns ⊢
        exact ⟨rfl, hruns⟩
      · rw [if_neg hname] at hruns ⊢
        exact hruns

end Visit

/-- The bookmark that a session leaves behind, too, is that of its last run. -/
theorem Session.chained (name : String) (session : Session) (c : Context) :
    ∃ last, LoopRun.Chained name (c.bookmark name) (session.loops c) last := by
  obtain ⟨last, hchained⟩ := session.visits_chained c
  let d : Context := { c with registers := last }
  exact ⟨d.bookmark name, hchained.loops rfl rfl⟩

end Liquid
