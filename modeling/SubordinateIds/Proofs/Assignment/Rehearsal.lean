import SubordinateIds.Proofs.Assignment.Lockstep
import SubordinateIds.Proofs.Assignment.Protocol
import SubordinateIds.Proofs.Assignment.Separation
import SubordinateIds.Proofs.Configuration.Trust
import SubordinateIds.Proofs.Endings

/-
  Rehearsals — what a dry run tells about the run

  A run and a dry run of one request begin in one session. As long as the account tool is
  obliging, they go on side by side: the dry run leaves out the commands of the account
  tool, and the only thing that these commands change is the queue of that tool, in which
  all ends are the same. So each step of the run has its counterpart in the dry run, and
  where the run adds a block the dry run shows the command that adds it.

  That a shown command is the one that was started follows from the protocol: of the
  commands that the run started, one alone has the flag of the kind.
-/

namespace SubordinateIds

/-! ## Machines of a run and of its rehearsal -/

namespace Machine

/-- The machines differ in nothing but in how often the ends of a tool were taken, and the
tool is obliging on both. -/
structure Beside (tool : Path) (m m' : Machine) : Prop where
  frame : m' = { m with exits := m'.exits }
  queues : ∀ p, p.components ≠ tool.components → m'.queue p = m.queue p
  obliging : m.Obliging tool
  obliging' : m'.Obliging tool

namespace Beside

variable {tool : Path} {m m' : Machine}

theorem find (h : Beside tool m m') : Identity.find m = Identity.find m' := by
  rw [h.frame]
  rfl

theorem environment (h : Beside tool m m') : Tools.environment m = Tools.environment m' := by
  rw [h.frame]
  rfl

theorem loading (h : Beside tool m m') (sources : Sources) :
    Loading.run m sources = Loading.run m' sources := by
  rw [h.frame]
  exact Loading.run_congr (fun _ => rfl) rfl rfl

theorem starts (h : Beside tool m m') : m'.startErrors = m.startErrors := by
  rw [h.frame]

theorem run_fst (h : Beside tool m m') (p : Path) : (m.run p).1 = (m'.run p).1 := by
  by_cases same : tool.components = p.components
  · rw [(h.obliging.congr same).run_fst, (h.obliging'.congr same).run_fst]
  · rw [Machine.run_fst, Machine.run_fst, h.starts, h.queues p (Ne.symm same)]

theorem run (h : Beside tool m m') (p : Path) : Beside tool (m.run p).2 (m'.run p).2 := by
  refine ⟨?_, ?_, h.obliging.run p, h.obliging'.run p⟩
  · obtain ⟨exits, ran⟩ := m.run_frame p
    obtain ⟨exits', ran'⟩ := m'.run_frame p
    rw [ran, ran', h.frame]
  · intro q other
    rw [queue_run, queue_run, h.starts]
    split
    · rename_i taken
      rw [h.queues p (by rw [← taken.2]; exact other)]
    · exact h.queues q other

theorem run_left (h : Beside tool m m') : Beside tool (m.run tool).2 m' := by
  refine ⟨?_, ?_, h.obliging.run tool, h.obliging'⟩
  · obtain ⟨exits, ran⟩ := m.run_frame tool
    rw [ran]
    exact h.frame
  · intro q other
    rw [queue_run, if_neg fun taken => other taken.2]
    exact h.queues q other

end Beside

end Machine

/-! ## Sessions of a run and of its rehearsal -/

namespace Session

/-- The second session lacks the commands of a tool, and the machines differ in nothing but
the ends of it. -/
structure Beside (tool : Path) (s t : Session) : Prop where
  machine : Machine.Beside tool s.machine t.machine
  verbose : s.journal.verbose = t.journal.verbose
  commands : t.commands.toList = s.commands.toList.filter (·.program ≠ tool)

namespace Beside

variable {tool : Path} {s t : Session}

theorem told (h : Beside tool s t) (events events' : List Event) :
    Beside tool (s.told events) (t.told events') where
  machine := h.machine
  verbose := by rw [told_verbose, told_verbose, h.verbose]
  commands := h.commands

theorem loaded (h : Beside tool s t) (sources : Sources) :
    Beside tool (s.loaded sources) (t.loaded sources) where
  machine := h.machine
  verbose := by rw [loaded_verbose, loaded_verbose, h.verbose]
  commands := h.commands

theorem started (h : Beside tool s t) {c : Command} (other : c.program ≠ tool) :
    Beside tool (s.started c) (t.started c) where
  machine := h.machine.run c.program
  verbose := h.verbose
  commands := by
    simp only [Session.started, Array.toList_push, List.filter_append, h.commands]
    simp [other]

theorem started_left (h : Beside tool s t) {c : Command} (same : c.program = tool) :
    Beside tool (s.started c) t where
  machine := by
    subst same
    exact h.machine.run_left
  verbose := h.verbose
  commands := by
    simp only [Session.started, Array.toList_push, List.filter_append, h.commands]
    simp [same]

end Beside

end Session

/-! ## Steps of a run and of its rehearsal -/

namespace Assignment

/-- A block that was added, and the command that would have added it. -/
def Shows (tools : Tools) (account : Account) (kind : Kind) (g g' : Tools.Grant) : Prop :=
  ∃ block, g = .applied block ∧ g' = .planned block (tools.accountTool.display ++
    String.join ((Tools.assignArgs account.name kind block).map (" " ++ ·)))

theorem paired_assign {tools : Tools} (account : Account) (kind : Kind) (start count : UInt32) :
    Paired (Session.Beside tools.accountTool) (Shows tools account kind)
      (tools.assign account.name kind start count false)
      (tools.assign account.name kind start count true) := by
  unfold Tools.assign
  refine .bind (.settle (.refl _)) fun _ _ _ => ?_
  refine .bind (.settle (.refl _)) fun block block' same => ?_
  subst same
  refine .bind (.machineNow Tools.environment fun _ _ beside => beside.machine.environment)
    fun m m' same => ?_
  simp only [Paired.command_eq same, Bool.false_eq_true, if_false, if_true]
  generalize command : Tools.command m' tools.accountTool
    (Tools.assignArgs account.name kind block) .inherit = c
  have program : c.program = tools.accountTool := by rw [← command]; rfl
  have shown : c.render = tools.accountTool.display ++
      String.join ((Tools.assignArgs account.name kind block).map (" " ++ ·)) := by
    rw [← command]
    rfl
  -- from here on the dry run is done, and the run adds the block
  intro s t beside
  have ended : (s.machine.run c.program).1 = .ok (.exited 0) := by
    rw [program, beside.machine.obliging.run_fst]
  rw [Act.run_report_bind, Act.run_bind, Task.run_execute, Session.told_machine, ended]
  refine ⟨.ok ⟨block, rfl, by rw [shown]⟩, ?_⟩
  exact (beside.told _ []).started_left program

/-- Each step of the run has its counterpart in the dry run. -/
theorem lockstep_beside {tools : Tools} (distinct : tools.queryTool ≠ tools.accountTool)
    (sources : Sources) :
    Lockstep (Session.Beside tools.accountTool) (Shows tools) tools sources false true := by
  have told (events : List Event) (s t : Session) (beside : s.Beside tools.accountTool t) :=
    beside.told events events
  refine ⟨told, ?_, ?_, ?_, ?_⟩
  · intro argument
    exact .resolve told (fun s t beside => beside.machine.find) argument
  · exact .load (fun s t beside => beside.machine.loading sources)
      fun s t beside => beside.loaded sources
  · intro name kind
    refine .present (B := Eq) told ?_ ?_ ?_ ?_
    · exact fun s t beside => beside.verbose
    · exact fun s t beside => beside.machine.environment
    · exact fun s t beside => beside.machine.run_fst tools.queryTool
    · intro m shown shown' same s t beside
      subst same
      exact beside.started distinct
  · exact paired_assign

/-! ## The one command of a kind -/

theorem eq_singleton {α : Type} {P : α → Prop} {xs : List α} {a : α}
    (once : xs.Pairwise fun x y => P x → ¬P y) (all : ∀ x ∈ xs, P x) (mem : a ∈ xs) : xs = [a] := by
  cases once with
  | nil => cases mem
  | @cons x xs apart rest =>
    cases xs with
    | nil => rw [List.mem_singleton.mp mem]
    | cons y xs =>
      have second := List.mem_cons_of_mem x (List.mem_cons_self (a := y) (l := xs))
      exact absurd (all y second) (apart y List.mem_cons_self (all x List.mem_cons_self))

namespace Run

/-- The same run, done or only rehearsed. -/
def dry (r : Run) (dryRun : Bool) : Run := { r with request := { r.request with dryRun := dryRun } }

/-- A block that the run added, and the text of the one command with the flag of the kind
that the run started, which adds the block. -/
def Foretells (r : Run) (account : Account) (kind : Kind) (g g' : Tools.Grant) : Prop :=
  ∃ block command, g = .applied block ∧ g' = .planned block command.render ∧
    command.args = Tools.assignArgs account.name kind block ∧
    r.commands.filter (fun c => c.program = r.tools.accountTool ∧
      c.args.head? = some kind.assignFlag) = [command]

/-- For a block that is reported as added, one command alone was started with the flag of
the kind. -/
theorem Reports.exists_command {r : Run} {account : Account} {kind : Kind} {block : Block}
    (h : r.Reports account kind (.applied block))
    (distinct : r.tools.queryTool ≠ r.tools.accountTool) :
    ∃ command, command.program = r.tools.accountTool ∧
      command.args = Tools.assignArgs account.name kind block ∧
      r.commands.filter (fun c => c.program = r.tools.accountTool ∧
        c.args.head? = some kind.assignFlag) = [command] := by
  obtain ⟨⟨command, started, program, args⟩, others⟩ := h.tells
  obtain ⟨c, part, -, -, ⟨outcomes, course⟩, -⟩ := h.served
  have spelled : [kind.assignFlag, range block, account.name] =
      Tools.assignArgs account.name kind block := by
    rw [Tools.assignArgs, Block.render_eq]
    rfl
  rw [spelled] at args others
  refine ⟨command, program, args, ?_⟩
  refine eq_singleton (P := (Purpose.assignment kind).Fits r.tools account.name) ?_ ?_ ?_
  · exact ((once_of_course distinct course).imp fun apart => apart _).filter _
  · intro c mem
    obtain ⟨mem, flagged⟩ := List.mem_filter.mp mem
    have flag := (of_decide_eq_true flagged).2
    exact ⟨(others c mem flag).1, block, (others c mem flag).2⟩
  · refine List.mem_filter.mpr ⟨started, ?_⟩
    rw [program, args]
    simp [Tools.assignArgs]

theorem foretells_of_shows {r : Run} (distinct : r.tools.queryTool ≠ r.tools.accountTool)
    {report report' : Report} (ok : r.result = .ok report)
    (together : report.Together (Shows r.tools) report') : report.Together r.Foretells report' := by
  refine ⟨together.account, ?_⟩
  have added : ∀ x ∈ report.outcomes, ∀ block, x.2 = .granted (.applied block) →
      r.Reports report.account x.1 (.applied block) := by
    intro x mem block same
    exact ⟨report.outcomes, ok, by rw [← same]; exact mem⟩
  refine ((List.forall₂_and_left _ _).mpr ⟨added, together.outcomes⟩).imp ?_
  intro x y pair
  obtain ⟨kind, outcome⟩ := x
  obtain ⟨kind', outcome'⟩ := y
  obtain ⟨added, kinds, outcomes⟩ := pair
  refine ⟨kinds, ?_⟩
  cases outcomes with
  | passedOver => exact .passedOver
  | granted grants =>
    obtain ⟨block, rfl, rfl⟩ := grants
    obtain ⟨command, program, args, alone⟩ := (added block rfl).exists_command distinct
    refine .granted ⟨block, command, rfl, ?_, args, alone⟩
    rw [Command.render, program, args]

/-- A dry run tells what the run comes to, if nothing goes wrong with the account tool: it
fails with the same fault, or it passes over the same kinds, and shows for the others the
blocks and the commands that the run adds. It starts what the run starts, but for the
commands that add blocks. -/
theorem rehearsed (r : Run) (distinct : r.tools.queryTool ≠ r.tools.accountTool)
    (obliging : r.machine.Obliging r.tools.accountTool) :
    Agree (Report.Together (r.dry false).Foretells) (r.dry false).result (r.dry true).result ∧
      (r.dry true).commands =
        (r.dry false).commands.filter (·.program ≠ r.tools.accountTool) ∧
      ∀ command ∈ (r.dry true).commands, command.program ≠ r.tools.accountTool := by
  have begun : Session.Beside r.tools.accountTool (r.dry false).start (r.dry true).start :=
    ⟨⟨rfl, fun _ _ => rfl, obliging, obliging⟩, rfl, rfl⟩
  obtain ⟨results, left⟩ :=
    (lockstep_beside distinct r.sources).run r.request.user r.request.kinds _ _ begun
  have results : Agree (Report.Together (Shows r.tools)) (r.dry false).result (r.dry true).result :=
    results
  have commands : (r.dry true).commands =
      (r.dry false).commands.filter (·.program ≠ r.tools.accountTool) := left.commands
  refine ⟨results.mono fun _ _ ok => foretells_of_shows (r := r.dry false) distinct ok,
    commands, ?_⟩
  intro command mem
  rw [commands] at mem
  exact of_decide_eq_true (List.mem_filter.mp mem).2

/-- A dry run for both kinds, and the two blocks that the run adds then. -/
theorem rehearsed_office :
    let r := inOffice "ann" [.group, .user] true
    r.tools.queryTool ≠ r.tools.accountTool ∧ r.machine.Obliging r.tools.accountTool ∧
      (r.dry false).commands.length = 4 ∧ (r.dry true).commands.length = 2 ∧
      Agree (Report.Together (r.dry false).Foretells) (r.dry false).result (r.dry true).result := by
  intro r
  have distinct : r.tools.queryTool ≠ r.tools.accountTool := by decide
  have obliging : r.machine.Obliging r.tools.accountTool := by
    refine ⟨rfl, ?_⟩
    have none : r.machine.queue r.tools.accountTool = [] := by decide +kernel
    rw [none]
    simp
  obtain ⟨results, commands, -⟩ := rehearsed r distinct obliging
  have four : (r.dry false).commands.length = 4 := by decide +kernel
  refine ⟨distinct, obliging, four, ?_, results⟩
  rw [commands]
  decide +kernel

end Run

end Assignment

end SubordinateIds
