import SubordinateIds.CommandLine.Program
import SubordinateIds.Proofs.Assignment.Arguments
import SubordinateIds.Proofs.Assignment.Protocol
import SubordinateIds.Proofs.Catalogue

/-
  Conduct — what a command line may do, and what comes out of it

  The flags are looked at in one order: the version, then the configuration, then an
  assignment. Each of the first two ends the program before a command could be started,
  and the flags that do not go together end it before the machine is asked anything
  (`Untouching`). What is left is an assignment: it needs a kind and a user, and what it
  comes to is what its run comes to. So a block is added only where an assignment was asked
  for and is not a dry run.

  The lines to be printed are known only when the run is over. That is why a run that
  fails prints none of them, even if it had planned a block by then.
-/

namespace SubordinateIds

open Assignment (Run)

/-! ## The wording of complaints -/

theorem Complaint.message_eq (complaint : Complaint) :
    complaint.message = match complaint with
      | .notPrinted reason => "static-subid: failed to write to stdout: " ++ reason
      | .modeRequired => "static-subid: at least one of --subuid or --subgid is required"
      | .userRequired => "static-subid: a username or UID is required"
      | .dumpConflict => "static-subid: --dump-config does not take a user or mode flags"
      | .loading fault => "static-subid: cannot load configuration: " ++ fault.message
      | .assignment fault => "static-subid: " ++ fault.message := by
  cases complaint with
  | notPrinted reason =>
    exact Catalogue.message_eq_append (by decide +kernel) (by decide +kernel) reason
  | modeRequired => decide +kernel
  | userRequired => decide +kernel
  | dumpConflict => decide +kernel
  | loading fault =>
    exact Catalogue.message_eq_append (by decide +kernel) (by decide +kernel) fault.message
  | assignment fault =>
    exact Catalogue.message_eq_append (by decide +kernel) (by decide +kernel) fault.message

/-! ## What a dry run plans -/

namespace Assignment

/-- The commands that a dry run would have started to add blocks, in the order of the kinds. -/
def Report.planned (report : Report) : List String :=
  report.outcomes.filterMap fun
    | (_, .granted (.planned _ command)) => some command
    | _ => none

theorem Report.lines_eq (report : Report) :
    report.outcomes.filterMap Invocation.outcomeLine? =
      report.planned.map ("static-subid: noop: would execute: " ++ ·) := by
  rw [planned, List.map_filterMap]
  refine List.filterMap_congr ?_
  intro outcome _
  rcases outcome with ⟨kind, _ | _ | ⟨block, command⟩⟩
  · rfl
  · rfl
  · exact congrArg some
      (Catalogue.message_eq_append (by decide +kernel) (by decide +kernel) command)

namespace Run

variable {r : Run} {report : Report}

/-- What is planned is the command that adds a block, in a dry run, for a name that was
checked. -/
theorem exists_planned (ok : r.result = .ok report) {command : String}
    (mem : command ∈ report.planned) :
    r.request.dryRun = true ∧ ∃ account c kind block,
      LoginName.check account.name = .ok () ∧
        command = ((r.task account c).assignment kind block).render := by
  obtain ⟨c, -, -, course⟩ := served_of_ok ok
  obtain ⟨outcome, reported, shown⟩ := List.mem_filterMap.mp mem
  rcases outcome with ⟨kind, _ | _ | ⟨block, text⟩⟩
  · cases shown
  · cases shown
  · cases shown
    obtain ⟨part, -, serves⟩ := course.of_mem rfl reported
    obtain ⟨start, asked, granted, -, -, -, grants⟩ := serves.of_granted
    cases grants with
    | planned checked made dry => exact ⟨dry, report.account, c, kind, block, checked, rfl⟩

end Run

theorem Task.newline_not_mem_render {w : Task} (checked : LoginName.check w.account.name = .ok ())
    (program : '\n' ∉ w.tools.accountTool.display.toList) (kind : Kind) (block : Block) :
    '\n' ∉ (w.assignment kind block).render.toList := by
  have flag : '\n' ∉ kind.assignFlag.toList := by cases kind <;> decide
  have range : '\n' ∉ block.render.toList := by
    intro mem
    exact absurd ((spans_render block).plain mem) (by decide)
  have name : '\n' ∉ w.account.name.toList := by
    intro mem
    have oneWord := (LoginName.check_eq_ok_iff.mp checked).unmistakable.oneWord
    exact absurd (oneWord _ mem) (by decide)
  simp [Command.render, assignment, Tools.assignArgs, program, flag, range, name]

end Assignment

namespace Invocation

variable {inv : Invocation} {machine : Machine} {printer : Printer} {user : String}

/-- The assignment that an invocation asks for, if it names a user. -/
def asked (inv : Invocation) (machine : Machine) (user : String) : Run where
  machine
  filter := if inv.has .debug then .everything else .problems
  tools := .standard
  sources := .standard
  request := ⟨user, inv.kinds, inv.has .noop⟩

/-- The invocation names a kind and this user. -/
structure Complete (inv : Invocation) (user : String) : Prop where
  kind : inv.has .subuid = true ∨ inv.has .subgid = true
  user : inv.user = some user

/-- The invocation does the same on every machine, and leaves it and the record of the
session as they were: nothing is asked of the machine, opened or started. -/
def Untouching (inv : Invocation) (printer : Printer) : Prop :=
  ∃ code out complaint, ∀ machine,
    inv.run machine printer = ⟨code, out, complaint, .start machine (inv.has .debug)⟩

/-- Why an invocation that asks for an assignment gets none, put as the user reads it. Of all
that may be missing or fail, it is what comes first. -/
inductive Refusal (inv : Invocation) (machine : Machine) : String → Prop where
  | noKind (subuid : inv.has .subuid = false) (subgid : inv.has .subgid = false) :
      Refusal inv machine "static-subid: at least one of --subuid or --subgid is required"
  | noUser (kind : inv.has .subuid = true ∨ inv.has .subgid = true) (user : inv.user = none) :
      Refusal inv machine "static-subid: a username or UID is required"
  | failed {user : String} {fault : Assignment.Fault} (complete : inv.Complete user)
      (result : (inv.asked machine user).result = .error fault)
      (first : (inv.asked machine user).FailsFirst fault) :
      Refusal inv machine ("static-subid: " ++ fault.message)

/-! ## The three things that can be asked for -/

theorem kinds_isEmpty :
    inv.kinds.isEmpty = true ↔ inv.has .subuid = false ∧ inv.has .subgid = false := by
  unfold kinds
  cases inv.has .subuid <;> cases inv.has .subgid <;> decide

theorem kinds_isEmpty_eq_false :
    inv.kinds.isEmpty = false ↔ inv.has .subuid = true ∨ inv.has .subgid = true := by
  rw [← Bool.not_eq_true, kinds_isEmpty, not_and_or, Bool.not_eq_false, Bool.not_eq_false]

theorem Complete.kinds_isEmpty (h : inv.Complete user) : inv.kinds.isEmpty = false :=
  kinds_isEmpty_eq_false.mpr h.kind

theorem perform_version (version : inv.has .version = true) :
    ∃ lines, ∀ s, inv.perform.run s = (.ok lines, s) := by
  unfold perform
  rw [if_pos version]
  exact ⟨_, fun _ => rfl⟩

theorem perform_dump (version : inv.has .version = false) (dump : inv.has .dumpConfig = true) :
    inv.perform = inv.dump := by
  simp [perform, version, dump]

theorem perform_assign (version : inv.has .version = false)
    (dump : inv.has .dumpConfig = false) : inv.perform = inv.assign := by
  simp [perform, version, dump]

theorem run_dump_conflict
    (conflict : inv.user.isSome = true ∨ inv.has .subuid = true ∨ inv.has .subgid = true)
    (s : Session) : inv.dump.run s = (.error .dumpConflict, s) := by
  unfold dump
  rw [if_pos (by simpa [or_assoc] using conflict)]
  rfl

theorem run_dump_commands (inv : Invocation) (s : Session) :
    (inv.dump.run s).2.commands = s.commands := by
  unfold dump
  split
  · rfl
  · rw [Act.run_bind, Act.run_adapt, Act.run_load]
    cases (Loading.run s.machine .standard).result <;> rfl

theorem run_assign_noKind (noKind : inv.kinds.isEmpty = true) (s : Session) :
    inv.assign.run s = (.error .modeRequired, s) := by
  unfold assign
  rw [if_pos noKind]
  rfl

theorem run_assign_noUser (kind : inv.kinds.isEmpty = false) (noUser : inv.user = none)
    (s : Session) : inv.assign.run s = (.error .userRequired, s) := by
  unfold assign
  rw [kind, noUser]
  rfl

theorem run_assign (complete : inv.Complete user) (machine : Machine) :
    inv.assign.run (.start machine (inv.has .debug)) =
      (((inv.asked machine user).result.mapError .assignment).map
        (·.outcomes.filterMap outcomeLine?), (inv.asked machine user).outcome.2) := by
  have start : Session.start machine (inv.has .debug) = (inv.asked machine user).start := rfl
  have outcome : (inv.asked machine user).outcome =
    (Assignment.run .standard .standard ⟨user, inv.kinds, inv.has .noop⟩).run
      (inv.asked machine user).start := rfl
  unfold assign
  rw [complete.kinds_isEmpty, if_neg Bool.false_ne_true, complete.user, Run.result, outcome, start]
  simp only [Act.run_bind, Act.run_adapt]
  cases ((Assignment.run .standard .standard ⟨user, inv.kinds, inv.has .noop⟩).run
      (inv.asked machine user).start).1 <;> rfl

/-! ## From what is performed to how the program ends -/

/-- What the invocation performs on a machine, and the session that this leaves. -/
def performed (inv : Invocation) (machine : Machine) : Except Complaint (List String) × Session :=
  inv.perform.run (.start machine (inv.has .debug))

theorem run_of_error {complaint : Complaint} {t : Session} (printer : Printer)
    (h : inv.performed machine = (.error complaint, t)) :
    inv.run machine printer = ⟨1, "", some complaint, t⟩ := by
  rw [performed] at h
  rw [run, h]

theorem run_of_ok {lines : List String} {t : Session}
    (h : inv.performed machine = (.ok lines, t)) :
    inv.run machine .working = ⟨0, String.join (lines.map (· ++ "\n")), none, t⟩ := by
  rw [performed] at h
  rw [run, h]
  cases lines <;> rfl

theorem run_session (inv : Invocation) (machine : Machine) (printer : Printer) :
    (inv.run machine printer).session = (inv.performed machine).2 := by
  rw [performed, run]
  rcases inv.perform.run (.start machine (inv.has .debug)) with ⟨complaint | lines, t⟩
  · rfl
  · dsimp only
    cases printer.print lines <;> rfl

theorem untouching_of {r : Except Complaint (List String)}
    (h : ∀ s, inv.perform.run s = (r, s)) (printer : Printer) : inv.Untouching printer := by
  cases r with
  | error complaint =>
    exact ⟨1, "", some complaint, fun machine => run_of_error printer (h _)⟩
  | ok lines =>
    cases printed : printer.print lines with
    | error reason =>
      refine ⟨1, "", some (.notPrinted reason), fun machine => ?_⟩
      rw [run, h]
      simp only [printed]
    | ok out =>
      refine ⟨0, out, none, fun machine => ?_⟩
      rw [run, h]
      simp only [printed]

/-- What becomes of an invocation that asks for an assignment: without a kind or a user it is
refused at once, and otherwise it comes to what its run comes to. -/
inductive Assigns (inv : Invocation) (machine : Machine) : Prop where
  | refused {complaint : Complaint} (incomplete : ∀ user, ¬inv.Complete user)
      (refusal : inv.Refusal machine complaint.message)
      (performs : ∀ s, inv.perform.run s = (.error complaint, s))
  | complete {user : String} (complete : inv.Complete user)
      (performs : inv.performed machine =
        (((inv.asked machine user).result.mapError .assignment).map
          (·.outcomes.filterMap outcomeLine?), (inv.asked machine user).outcome.2))

theorem assigns (version : inv.has .version = false) (dump : inv.has .dumpConfig = false)
    (machine : Machine) : inv.Assigns machine := by
  have performs := perform_assign version dump
  cases empty : inv.kinds.isEmpty with
  | true =>
    have refuses (s : Session) : inv.perform.run s = (.error .modeRequired, s) := by
      rw [performs, run_assign_noKind empty]
    obtain ⟨subuid, subgid⟩ := kinds_isEmpty.mp empty
    refine .refused ?_ ?_ refuses
    · intro user complete
      exact absurd (complete.kinds_isEmpty.symm.trans empty) (by decide)
    · rw [Complaint.message_eq]
      exact .noKind subuid subgid
  | false =>
    have kind := kinds_isEmpty_eq_false.mp empty
    cases named : inv.user with
    | none =>
      have refuses (s : Session) : inv.perform.run s = (.error .userRequired, s) := by
        rw [performs, run_assign_noUser empty named]
      refine .refused ?_ ?_ refuses
      · intro user complete
        cases named.symm.trans complete.user
      · rw [Complaint.message_eq]
        exact .noUser kind named
    | some user =>
      refine .complete ⟨kind, named⟩ ?_
      rw [performed, performs]
      exact run_assign ⟨kind, named⟩ machine

/-! ## What an invocation may do -/

/-- What an invocation does not do. With the version, with flags that do not go together and
with a request that is not complete it asks nothing of the machine; with the configuration
it starts nothing; and the account tool is started for nothing but an assignment, named in
full, that is no dry run and that went well so far. -/
structure Restrained (inv : Invocation) (machine : Machine) (printer : Printer) : Prop where
  version : inv.has .version = true → inv.Untouching printer
  conflict : inv.has .dumpConfig = true →
    (inv.user.isSome = true ∨ inv.has .subuid = true ∨ inv.has .subgid = true) →
      inv.Untouching printer
  incomplete : inv.has .dumpConfig = false → (∀ user, ¬inv.Complete user) → inv.Untouching printer
  dump : inv.has .dumpConfig = true → (inv.run machine printer).session.commands = #[]
  adds : ∀ command ∈ (inv.run machine printer).session.commands.toList,
    command.program = Tools.standard.accountTool →
      inv.has .version = false ∧ inv.has .dumpConfig = false ∧ inv.has .noop = false ∧
        ∃ user, inv.Complete user ∧ (inv.asked machine user).Cleared command

theorem Untouching.commands (h : inv.Untouching printer) (machine : Machine) :
    (inv.run machine printer).session.commands = #[] := by
  obtain ⟨code, out, complaint, same⟩ := h
  rw [same]
  rfl

theorem restrained (inv : Invocation) (machine : Machine) (printer : Printer) :
    inv.Restrained machine printer := by
  have nothing {P : Command → Prop} (none : (inv.run machine printer).session.commands = #[]) :
      ∀ command ∈ (inv.run machine printer).session.commands.toList, P command := by
    rw [none]
    simp
  cases version : inv.has .version with
  | true =>
    obtain ⟨lines, performs⟩ := perform_version version
    have untouching := untouching_of performs printer
    have commands := untouching.commands machine
    exact ⟨fun _ => untouching, fun _ _ => untouching, fun _ _ => untouching, fun _ => commands,
      nothing commands⟩
  | false =>
    cases dump : inv.has .dumpConfig with
    | true =>
      have performs := perform_dump version dump
      have commands : (inv.run machine printer).session.commands = #[] := by
        rw [run_session, performed, performs, run_dump_commands]
        rfl
      refine ⟨by simp [version], fun _ conflict => ?_, by simp [dump], fun _ => commands,
        nothing commands⟩
      exact untouching_of (by rw [performs]; exact run_dump_conflict conflict) printer
    | false =>
      cases assigns version dump machine with
      | refused incomplete refusal performs =>
        have untouching := untouching_of performs printer
        exact ⟨by simp [version], by simp [dump], fun _ _ => untouching, by simp [dump],
          nothing (untouching.commands machine)⟩
      | @complete user complete performs =>
        have distinct : Tools.standard.queryTool ≠ Tools.standard.accountTool := by decide
        refine ⟨by simp [version], by simp [dump], ?_, by simp [dump], ?_⟩
        · intro _ incomplete
          exact absurd complete (incomplete user)
        · intro command mem assigns
          rw [run_session, performs] at mem
          have mem : command ∈ (inv.asked machine user).commands := mem
          refine ⟨version, dump, ?_, user, complete, Run.cleared distinct mem⟩
          obtain ⟨account, c, -, -, kind, -, owns⟩ := Run.owns mem
          rcases owns.cases with rfl | ⟨block, wet, -, -⟩
          · exact absurd assigns distinct
          · exact wet

/-! ## What comes out -/

/-- What stands on standard output after a run that came to a report: a line for each block
that was planned, users before groups, and nothing else. -/
structure Prints (inv : Invocation) (report : Assignment.Report) (out : String) : Prop where
  lines : out = String.join
    (report.planned.map fun command => "static-subid: noop: would execute: " ++ command ++ "\n")
  single : ∀ command ∈ report.planned, '\n' ∉ command.toList
  order : report.outcomes.map Prod.fst = inv.kinds
  dry : inv.has .noop = false → report.planned = []

/-- What comes of an invocation that asks for an assignment, where it can be printed. -/
structure Candid (inv : Invocation) (machine : Machine) (f : Finish) : Prop where
  succeeds : f.exitCode = 0 ↔
    ∃ user report, inv.Complete user ∧ (inv.asked machine user).result = .ok report
  refuses : f.exitCode ≠ 0 → f.stdout = "" ∧ ∃ message, inv.Refusal machine message ∧
    ∀ format time, f.stderr format time =
      format.lines (f.session.journal.events.toList.map (·, time)) ++ message ++ "\n"
  prints : f.exitCode = 0 → ∃ user report, inv.Complete user ∧
    (inv.asked machine user).result = .ok report ∧ inv.Prints report f.stdout

theorem asked_kinds (inv : Invocation) (machine : Machine) (user : String) :
    (inv.asked machine user).kinds = inv.kinds := by
  unfold Run.kinds asked kinds
  cases inv.has .subuid <;> cases inv.has .subgid <;> rfl

theorem prints {report : Assignment.Report} (ok : (inv.asked machine user).result = .ok report) :
    inv.Prints report
      (String.join ((report.outcomes.filterMap outcomeLine?).map (· ++ "\n"))) where
  lines := by
    rw [report.lines_eq, List.map_map]
    rfl
  single := by
    intro command mem
    obtain ⟨-, account, c, kind, block, checked, rfl⟩ := Run.exists_planned ok mem
    have tools : ((inv.asked machine user).task account c).tools = .standard := rfl
    refine Assignment.Task.newline_not_mem_render checked ?_ kind block
    rw [tools]
    decide +kernel
  order := by
    obtain ⟨c, -, -, course⟩ := Run.served_of_ok ok
    rw [course.map_fst rfl, asked_kinds]
  dry := by
    intro wet
    refine List.eq_nil_iff_forall_not_mem.mpr ?_
    intro command mem
    obtain ⟨dry, -⟩ := Run.exists_planned ok mem
    exact absurd (wet.symm.trans dry) (by decide)

theorem candid_of_error {complaint : Complaint} {t : Session}
    (performs : inv.performed machine = (.error complaint, t))
    (none : ∀ user report, inv.Complete user → (inv.asked machine user).result ≠ .ok report)
    (refusal : inv.Refusal machine complaint.message) :
    inv.Candid machine (inv.run machine .working) := by
  have failed : (1 : UInt8) ≠ 0 := by decide
  rw [run_of_error .working performs]
  refine ⟨?_, ?_, ?_⟩
  · refine ⟨fun zero => absurd zero failed, ?_⟩
    intro h
    obtain ⟨user, report, complete, ok⟩ := h
    exact absurd ok (none user report complete)
  · intro _
    refine ⟨rfl, _, refusal, ?_⟩
    intro format time
    rw [Finish.stderr, String.append_assoc]
  · exact fun zero => absurd zero failed

theorem candid (version : inv.has .version = false) (dump : inv.has .dumpConfig = false)
    (machine : Machine) : inv.Candid machine (inv.run machine .working) := by
  cases assigns version dump machine with
  | refused incomplete refusal performs =>
    refine candid_of_error (performs _) ?_ refusal
    intro user report complete
    exact absurd complete (incomplete user)
  | @complete user complete performs =>
    cases result : (inv.asked machine user).result with
    | error fault =>
      rw [result] at performs
      refine candid_of_error performs ?_ ?_
      · intro user' report complete' ok
        cases complete.user.symm.trans complete'.user
        cases result.symm.trans ok
      · rw [Complaint.message_eq]
        exact .failed complete result (Run.failsFirst result)
    | ok report =>
      rw [result] at performs
      rw [run_of_ok performs]
      refine ⟨⟨fun _ => ⟨user, report, complete, result⟩, fun _ => rfl⟩, ?_, ?_⟩
      · exact fun failed => absurd rfl failed
      · exact fun _ => ⟨user, report, complete, result, prints result⟩

/-- What a command line comes to. If its words cannot be read, only ask for help or ask for
the version, the machine is not looked at, however that is done. Otherwise the program keeps
to what it may do; and what is printed of an assignment, and with which exit code the program
ends, is what the run of the assignment came to: all of it if the request is complete and the
run succeeds, and else nothing but the reason. -/
theorem conduct (words : List Octets) (printer : Printer) :
    (∀ stop, read words = .error stop → ∀ {m : Type → Type} [Monad m] (observe : m Machine),
      runWords words observe printer = pure (.error stop)) ∧
      ∀ inv, read words = .ok inv →
        (inv.has .version = true → ∀ {m : Type → Type} [Monad m] (observe : m Machine),
          runWords words observe printer = pure (.ok (inv, inv.run .empty printer))) ∧
        (inv.has .version = false → ∀ {m : Type → Type} [Monad m] (observe : m Machine),
          runWords words observe printer = do return .ok (inv, inv.run (← observe) printer)) ∧
        ∀ machine, inv.Restrained machine printer ∧
          (inv.has .version = false → inv.has .dumpConfig = false →
            inv.Candid machine (inv.run machine .working)) := by
  refine ⟨?_, ?_⟩
  · intro stop rejected m _ observe
    rw [runWords, rejected]
  · intro inv accepted
    refine ⟨?_, ?_, fun machine => ⟨inv.restrained machine printer, ?_⟩⟩
    · intro version m _ observe
      rw [runWords, accepted]
      exact if_pos version
    · intro version m _ observe
      rw [runWords, accepted]
      exact if_neg (by rw [version]; decide)
    · exact fun version dump => candid version dump machine

/-- An office whose query tool works once. -/
def frailOffice : Machine := { Run.office with
  exits := Machine.lineUp [(Tools.standard.queryTool, .exited 1),
    (Tools.standard.queryTool, .exited 2)] }

/-- A dry run that plans a block of user ids, and then cannot find out about group ids. -/
theorem conduct_frailOffice :
    let words := ["--subgid", "--noop", "ann", "--subuid"].map octetsOf
    let inv : Invocation := ⟨[.subgid, .noop, .subuid], none, none, some "ann"⟩
    read words = .ok inv ∧ inv.has .version = false ∧ inv.has .dumpConfig = false ∧
      (inv.asked frailOffice "ann").result =
        .error (.presence .group "ann" (.exitStatus Tools.standard.queryTool 2)) ∧
      runWords (m := Id) words frailOffice .working = .ok (inv, inv.run frailOffice .working) ∧
      (inv.run frailOffice .working).exitCode = 1 ∧
      (inv.run frailOffice .working).stdout = "" ∧ ∃ message, inv.Refusal frailOffice message := by
  intro words inv
  obtain ⟨-, accepts⟩ := conduct words .working
  have accepted : read words = .ok inv := by decide +kernel
  have version : inv.has .version = false := by decide
  have dump : inv.has .dumpConfig = false := by decide
  have result : (inv.asked frailOffice "ann").result =
      .error (.presence .group "ann" (.exitStatus Tools.standard.queryTool 2)) := by
    decide +kernel
  have failed : (inv.run frailOffice .working).exitCode = 1 := by decide +kernel
  obtain ⟨-, runs, conducts⟩ := accepts inv accepted
  have ran : runWords (m := Id) words frailOffice .working =
      .ok (inv, inv.run frailOffice .working) := runs version _
  have candid := (conducts frailOffice).2
  obtain ⟨silent, message, refusal, -⟩ :=
    (candid version dump).refuses (by rw [failed]; decide)
  exact ⟨accepted, version, dump, result, ran, failed, silent, message, refusal⟩

end Invocation

end SubordinateIds
