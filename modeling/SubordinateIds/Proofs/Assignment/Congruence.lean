import SubordinateIds.Proofs.Assignment.Lockstep
import SubordinateIds.Proofs.Assignment.Runs

/-
  Congruences — machines that a run cannot tell apart

  A run asks its machine for four things: which account an argument means, what the loading
  comes to, what the environment of the tools is, and how a program ends. A relation of
  machines is a congruence if related machines answer alike to all four and are left
  related by every program. Then a run comes to the same on both, whatever the machines
  differ in, and what it did and said is the same too (`Run.on_congr`).
-/

namespace SubordinateIds

/-- Related machines answer alike to everything that a run asks, and stay related. -/
structure Machine.Congruence (M : Machine → Machine → Prop) : Prop where
  find : ∀ m m', M m m' → Identity.find m = Identity.find m'
  loading : ∀ m m', M m m' → ∀ sources, Loading.run m sources = Loading.run m' sources
  environment : ∀ m m', M m m' → Tools.environment m = Tools.environment m'
  run : ∀ m m', M m m' → ∀ p, (m.run p).1 = (m'.run p).1 ∧ M (m.run p).2 (m'.run p).2

namespace Session

/-- Nothing tells the sessions apart but their machines, which are related. -/
structure Matched (M : Machine → Machine → Prop) (s t : Session) : Prop where
  machine : M s.machine t.machine
  journal : s.journal = t.journal
  opened : s.opened = t.opened
  commands : s.commands = t.commands

namespace Matched

variable {M : Machine → Machine → Prop} {s t : Session}

theorem told (h : Matched M s t) (events : List Event) :
    Matched M (s.told events) (t.told events) where
  machine := h.machine
  journal := by rw [Session.told, Session.told, h.journal]
  opened := h.opened
  commands := h.commands

theorem started (h : Matched M s t) (congruence : Machine.Congruence M) (c : Command) :
    Matched M (s.started c) (t.started c) where
  machine := (congruence.run _ _ h.machine c.program).2
  journal := h.journal
  opened := h.opened
  commands := by rw [Session.started, Session.started, h.commands]

theorem loaded (h : Matched M s t) (congruence : Machine.Congruence M) (sources : Sources) :
    Matched M (s.loaded sources) (t.loaded sources) := by
  have loading := congruence.loading _ _ h.machine sources
  refine ⟨h.machine, ?_, ?_, h.commands⟩
  · rw [Session.loaded, Session.loaded, loading, h.journal]
  · rw [Session.loaded, Session.loaded, loading, h.opened]

end Matched

end Session

namespace Assignment

theorem lockstep_matched {M : Machine → Machine → Prop} (congruence : Machine.Congruence M)
    (tools : Tools) (sources : Sources) (dryRun : Bool) :
    Lockstep (Session.Matched M) (fun _ _ => Eq) tools sources dryRun dryRun := by
  have told (events : List Event) (s t : Session) (matched : s.Matched M t) :=
    matched.told events
  have environment (s t : Session) (matched : s.Matched M t) :=
    congruence.environment _ _ matched.machine
  have ends (p : Path) (s t : Session) (matched : s.Matched M t) :=
    (congruence.run _ _ matched.machine p).1
  refine ⟨told, ?_, ?_, ?_, ?_⟩
  · intro argument
    exact .resolve told (fun s t matched => congruence.find _ _ matched.machine) argument
  · exact .load (fun s t matched => congruence.loading _ _ matched.machine sources)
      fun s t matched => matched.loaded congruence sources
  · intro name kind
    refine .present (B := Eq) told ?_ environment (ends _) ?_
    · intro s t matched
      rw [matched.journal]
    · intro m shown shown' same s t matched
      subst same
      exact matched.started congruence _
  · intro account kind start count
    refine .assign told environment (ends _) ?_ start count dryRun
    exact fun m block s t matched => matched.started congruence _

namespace Run

/-- The same run on another machine. -/
def on (r : Run) (m : Machine) : Run := { r with machine := m }

/-- A run comes to the same on related machines: it gives or fails with the same, it starts
the same commands and opens the same paths, and it reports the same. -/
theorem on_congr {M : Machine → Machine → Prop} (congruence : Machine.Congruence M) (r : Run)
    {m : Machine} (related : M r.machine m) :
    (r.on m).result = r.result ∧ (r.on m).commands = r.commands ∧
      (r.on m).opened = r.opened ∧ (r.on m).events = r.events := by
  have begun : r.start.Matched M (r.on m).start := ⟨related, rfl, rfl, rfl⟩
  have steps := lockstep_matched congruence r.tools r.sources r.request.dryRun
  obtain ⟨results, left⟩ := steps.run r.request.user r.request.kinds _ _ begun
  have same := (results.mono fun _ _ _ => Report.Together.eq).eq
  refine ⟨same.symm, ?_, ?_, ?_⟩
  · exact congrArg Array.toList left.commands.symm
  · exact congrArg Array.toList left.opened.symm
  · exact congrArg (fun journal => journal.events.toList) left.journal.symm

end Run

end Assignment

end SubordinateIds
