import SubordinateIds.Proofs.Assignment.Lockstep
import SubordinateIds.Proofs.Assignment.Runs

/-
  Verbosity — a run that keeps its trace, and the same run that does not

  Whether the trace is kept decides two things: which events stay in the journal, and
  whether the user sees what the query tool prints. It decides nothing else. The two runs
  take the same steps on the same machine; the quiet one drops the events that its filter
  does not let through, and closes the streams of each query. Both differences are part of
  the relation `Session.Hushed`, which every step keeps.
-/

namespace SubordinateIds

/-- A command of a run that keeps its trace, and the command in its place of one that does
not: a query whose output is shown and the same query whose output is dropped, or a command
that adds a block and that command itself. -/
inductive Command.Hushed (tools : Tools) : Command → Command → Prop where
  | query {c : Command} (program : c.program = tools.queryTool)
      (args : ∃ name kind, c.args = Tools.queryArgs name kind)
      (stdout : c.stdout = .inherit) (stderr : c.stderr = .inherit) :
      Hushed tools c { c with stdout := .null, stderr := .null }
  | assignment {c : Command} (program : c.program = tools.accountTool)
      (args : ∃ name kind block, c.args = Tools.assignArgs name kind block) :
      Hushed tools c c

namespace Session

/-- The first session keeps its trace, and the second one is what is left of it under
another filter. -/
structure Hushed (tools : Tools) (filter : Journal.Filter) (s t : Session) : Prop where
  machine : s.machine = t.machine
  loud : s.journal.filter = .everything
  quiet : t.journal.filter = filter
  events : t.journal.events.toList = s.journal.events.toList.filter (filter.admits ·.level)
  opened : s.opened = t.opened
  commands : List.Forall₂ (Command.Hushed tools) s.commands.toList t.commands.toList

namespace Hushed

variable {tools : Tools} {filter : Journal.Filter} {s t : Session}

theorem told (h : Hushed tools filter s t) (events : List Event) :
    Hushed tools filter (s.told events) (t.told events) where
  machine := h.machine
  loud := by rw [Session.told, Journal.filter_recordAll, h.loud]
  quiet := by rw [Session.told, Journal.filter_recordAll, h.quiet]
  events := by
    have kept : events.filter (fun e => Journal.Filter.everything.admits e.level) = events :=
      List.filter_eq_self.mpr fun _ _ => rfl
    rw [Session.told, Session.told, Journal.toList_recordAll, Journal.toList_recordAll, h.loud,
      h.quiet, h.events, kept, List.filter_append]
  opened := h.opened
  commands := h.commands

theorem loaded (h : Hushed tools filter s t) (sources : Sources) :
    Hushed tools filter (s.loaded sources) (t.loaded sources) := by
  have same : Loading.run t.machine sources = Loading.run s.machine sources := by
    rw [h.machine]
  have told := h.told (Loading.run s.machine sources).events
  rw [Session.loaded, Session.loaded, same]
  exact ⟨h.machine, told.loud, told.quiet, told.events, by rw [h.opened], h.commands⟩

theorem started (h : Hushed tools filter s t) {c d : Command} (hushed : c.Hushed tools d)
    (program : c.program = d.program) :
    Hushed tools filter (s.started c) (t.started d) where
  machine := by rw [Session.started, Session.started, h.machine, program]
  loud := h.loud
  quiet := h.quiet
  events := h.events
  opened := h.opened
  commands := by
    simp only [Session.started, Array.toList_push]
    exact List.rel_append h.commands (.cons hushed .nil)

theorem verbose (h : Hushed tools filter s t) (other : filter ≠ .everything) :
    s.journal.verbose = true ∧ t.journal.verbose = false := by
  rw [Journal.verbose, Journal.verbose, h.loud, h.quiet]
  exact ⟨rfl, beq_false_of_ne other⟩

end Hushed

end Session

namespace Assignment

/-- Every step does the same with and without the trace, and keeps the sessions related. -/
theorem lockstep_hushed {filter : Journal.Filter} (other : filter ≠ .everything) (tools : Tools)
    (sources : Sources) (dryRun : Bool) :
    Lockstep (Session.Hushed tools filter) (fun _ _ => Eq) tools sources dryRun dryRun := by
  have told (events : List Event) (s t : Session) (hushed : s.Hushed tools filter t) :=
    hushed.told events
  have environment (s t : Session) (hushed : s.Hushed tools filter t) :
      Tools.environment s.machine = Tools.environment t.machine := by
    rw [hushed.machine]
  have ends (p : Path) (s t : Session) (hushed : s.Hushed tools filter t) :
      (s.machine.run p).1 = (t.machine.run p).1 := by
    rw [hushed.machine]
  refine ⟨told, ?_, ?_, ?_, ?_⟩
  · intro argument
    refine .resolve told ?_ argument
    intro s t hushed
    rw [hushed.machine]
  · refine .load ?_ fun s t hushed => hushed.loaded sources
    intro s t hushed
    rw [hushed.machine]
  · intro name kind
    -- the one place where a step looks at the trace: the streams of the query
    refine .present (B := fun shown shown' => shown = true ∧ shown' = false) told
      (fun s t hushed => hushed.verbose other) environment (ends _) ?_
    intro m shown shown' shows s t hushed
    obtain ⟨rfl, rfl⟩ := shows
    exact hushed.started (.query rfl ⟨name, kind, rfl⟩ rfl rfl) rfl
  · intro account kind start count
    refine .assign told environment (ends _) ?_ start count dryRun
    intro m block s t hushed
    exact hushed.started (.assignment rfl ⟨account.name, kind, block, rfl⟩) rfl

namespace Run

/-- The same run with another filter for its events. -/
def keeping (r : Run) (filter : Journal.Filter) : Run := { r with filter := filter }

/-- The second run does what the first one does, and only drops the output of its queries. -/
structure Hushes (loud quiet : Run) : Prop where
  result : quiet.result = loud.result
  opened : quiet.opened = loud.opened
  commands : List.Forall₂ (Command.Hushed loud.tools) loud.commands quiet.commands

theorem hushes_keeping (r : Run) (filter : Journal.Filter) (other : filter ≠ .everything) :
    (r.keeping .everything).Hushes (r.keeping filter) ∧
      (r.keeping filter).events =
        (r.keeping .everything).events.filter (filter.admits ·.level) := by
  have begun : (r.keeping .everything).start.Hushed r.tools filter (r.keeping filter).start :=
    ⟨rfl, rfl, rfl, rfl, rfl, .nil⟩
  have steps := lockstep_hushed other r.tools r.sources r.request.dryRun
  obtain ⟨results, left⟩ := steps.run r.request.user r.request.kinds _ _ begun
  have same := (results.mono fun _ _ _ => Report.Together.eq).eq
  exact ⟨⟨same.symm, congrArg Array.toList left.opened.symm, left.commands⟩, left.events⟩

/-- To keep the trace only adds to what is reported. Without it a run comes to the same and
opens the same paths; its events are the others, in order; and its commands are the same one
by one, but that the output of a query is dropped and not shown. A run that keeps no event
at all differs in nothing else either. -/
theorem tracing_only_adds (r : Run) :
    (r.keeping .everything).Hushes (r.keeping .problems) ∧
      (r.keeping .problems).events =
        (r.keeping .everything).events.filter (fun e => e.level ≠ .debug) ∧
      (r.keeping .everything).Hushes (r.keeping .nothing) ∧ (r.keeping .nothing).events = [] := by
  obtain ⟨problems, events⟩ := r.hushes_keeping .problems (by decide)
  obtain ⟨nothing, none⟩ := r.hushes_keeping .nothing (by decide)
  refine ⟨problems, ?_, nothing, ?_⟩
  · rw [events]
    refine List.filter_congr ?_
    intro e _
    simp only [Journal.Filter.admits, bne_eq, decide_not]
    cases e.level <;> rfl
  · rw [none]
    exact List.filter_eq_nil_iff.mpr fun e _ => by simp [Journal.Filter.admits]

end Run

end Assignment

end SubordinateIds
