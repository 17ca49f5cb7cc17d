import SubordinateIds.Proofs.Acts

/-
  Answers — how the machine ends the commands of a run

  A session keeps the commands that were started, not how they ended. How they ended
  is a matter of the machine alone: `answers` starts them again on the machine of the
  beginning, one after the other, and gives each its ending. `Stretch` says that
  this is what a part of a run did to its session: the commands of the part were noted
  in order, and the machine is the one that they left. Stretches follow one another as
  their lists of commands do.
-/

namespace SubordinateIds

namespace Machine

/-- A command that was started, and how that ended. -/
structure Answer where
  command : Command
  ending : Except SystemError Exit

/-- What the machine answers to commands that are started one after the other. -/
def answers (m : Machine) : List Command → List Answer
  | [] => []
  | c :: cs => ⟨c, (m.run c.program).1⟩ :: (m.run c.program).2.answers cs

/-- The machine after the commands. -/
def after (m : Machine) : List Command → Machine
  | [] => m
  | c :: cs => (m.run c.program).2.after cs

theorem after_append (m : Machine) (cs ds : List Command) :
    m.after (cs ++ ds) = (m.after cs).after ds := by
  induction cs generalizing m with
  | nil => rfl
  | cons c cs ih => exact ih _

theorem answers_append (m : Machine) (cs ds : List Command) :
    m.answers (cs ++ ds) = m.answers cs ++ (m.after cs).answers ds := by
  induction cs generalizing m with
  | nil => rfl
  | cons c cs ih => simp only [List.cons_append, answers, after, ih]

theorem map_command_answers (m : Machine) (cs : List Command) :
    (m.answers cs).map Answer.command = cs := by
  induction cs generalizing m with
  | nil => rfl
  | cons c cs ih => simp only [answers, List.map_cons, ih]

/-- A command changes nothing but the endings that are lined up. -/
theorem run_frame (m : Machine) (p : Path) : ∃ exits, (m.run p).2 = { m with exits := exits } := by
  unfold run
  split
  · exact ⟨m.exits, rfl⟩
  · split
    · exact ⟨m.exits, rfl⟩
    · exact ⟨m.exits, rfl⟩
    · exact ⟨m.exits, rfl⟩
    · exact ⟨_, rfl⟩

/-- What becomes of a command depends on which programs start and on the endings alone. -/
theorem run_eq {m m' : Machine} (starts : m'.startErrors = m.startErrors)
    (exits : m'.exits = m.exits) (p : Path) :
    m'.run p = ((m.run p).1, { m' with exits := (m.run p).2.exits }) := by
  have unchanged : { m' with startErrors := m.startErrors, exits := m.exits } = m' := by
    rw [← starts, ← exits]
  unfold run
  rw [starts, exits]
  split
  · exact Prod.ext rfl unchanged.symm
  · split
    · exact Prod.ext rfl unchanged.symm
    · exact Prod.ext rfl unchanged.symm
    · exact Prod.ext rfl unchanged.symm
    · rfl

theorem after_frame (m : Machine) (cs : List Command) :
    ∃ exits, m.after cs = { m with exits := exits } := by
  induction cs generalizing m with
  | nil => exact ⟨m.exits, rfl⟩
  | cons c cs ih =>
    obtain ⟨exits, ran⟩ := run_frame m c.program
    obtain ⟨exits', rest⟩ := ih (m.run c.program).2
    exact ⟨exits', by rw [after, rest, ran]⟩

theorem environment_after (m : Machine) (cs : List Command) :
    (m.after cs).environment = m.environment := by
  obtain ⟨exits, frame⟩ := after_frame m cs
  rw [frame]

end Machine

namespace Session

/-- What a part of a run that started these commands did to its session. -/
structure Stretch (s : Session) (cs : List Command) (t : Session) : Prop where
  machine : t.machine = s.machine.after cs
  commands : t.commands.toList = s.commands.toList ++ cs
  verbose : t.journal.verbose = s.journal.verbose

namespace Stretch

variable {s t u : Session} {cs ds : List Command}

theorem refl (s : Session) : Stretch s [] s :=
  ⟨rfl, (List.append_nil _).symm, rfl⟩

theorem trans (first : Stretch s cs t) (second : Stretch t ds u) : Stretch s (cs ++ ds) u where
  machine := by rw [second.machine, first.machine, Machine.after_append]
  commands := by rw [second.commands, first.commands, List.append_assoc]
  verbose := second.verbose.trans first.verbose

theorem started (s : Session) (c : Command) : Stretch s [c] (s.started c) :=
  ⟨rfl, Array.toList_push, rfl⟩

theorem of_told {events : List Event} (rest : Stretch (s.told events) cs t) : Stretch s cs t where
  machine := rest.machine
  commands := rest.commands
  verbose := rest.verbose.trans (s.told_verbose events)

theorem told (first : Stretch s cs t) (events : List Event) : Stretch s cs (t.told events) where
  machine := first.machine
  commands := first.commands
  verbose := (t.told_verbose events).trans first.verbose

theorem answers_trans (first : Stretch s cs t) :
    s.machine.answers (cs ++ ds) = s.machine.answers cs ++ t.machine.answers ds := by
  rw [Machine.answers_append, first.machine]

end Stretch

end Session

end SubordinateIds
