import SubordinateIds.Proofs.Assignment.Courses

/-
  Runs — one request, served from its beginning

  A `Run` is everything that a request is served with: the machine, which events are
  kept, where the tools and the settings are, and the request. What it comes to is a
  function of it: the result, the commands in the order they were started, and the
  answers the machine gave to them.

  `ends` is the one statement about a whole run: it fails before the first command, in
  one of three ways, or every command it starts belongs to the courses of the kinds that
  were asked for, users before groups. So a run that fails has a first step that failed,
  and what it tells is the fault of that step (`failsFirst`).
-/

namespace SubordinateIds.Assignment

open Machine (Answer)

/-- Everything that a request is served with. -/
structure Run where
  machine : Machine
  filter : Journal.Filter
  tools : Tools
  sources : Sources
  request : Request

namespace Run

/-- The session in which the run begins: nothing was reported, opened or started. -/
def start (r : Run) : Session where
  machine := r.machine
  journal := .empty r.filter
  opened := #[]
  commands := #[]

/-- What the run comes to, and the session it leaves. -/
def outcome (r : Run) : Except Fault Report × Session :=
  (Assignment.run r.tools r.sources r.request).run r.start

/-- What the run comes to. -/
def result (r : Run) : Except Fault Report := r.outcome.1

/-- The commands of the run, in the order they were started. -/
def commands (r : Run) : List Command := r.outcome.2.commands.toList

/-- The paths that the run opened, in the order they were opened. -/
def opened (r : Run) : List Path := r.outcome.2.opened.toList

/-- The events that the run left in its journal, oldest first. -/
def events (r : Run) : List Event := r.outcome.2.journal.events.toList

/-- The commands of the run, each with how it ended. -/
def answers (r : Run) : List Answer := r.machine.answers r.commands

/-- The account that the user of the request means. -/
def account (r : Run) : Except Identity.Fault Account :=
  (Identity.find r.machine r.request.user).map (·.1)

/-- The configuration that the run loads. -/
def configuration (r : Run) : Except Loading.Fault Configuration :=
  (Loading.run r.machine r.sources).result

/-- The kinds that are asked for, each once, users before groups. -/
def kinds (r : Run) : List Kind := Kind.all.filter (r.request.kinds.contains ·)

/-- The task of the run, once its account and its configuration are known. -/
def task (r : Run) (account : Account) (c : Configuration) : Task :=
  .ofSession r.tools account c r.request.dryRun r.start

theorem mem_commands {r : Run} {answer : Answer} (mem : answer ∈ r.answers) :
    answer.command ∈ r.commands := by
  rw [← r.machine.map_command_answers r.commands]
  exact List.mem_map_of_mem mem

theorem exists_answer {r : Run} {command : Command} (mem : command ∈ r.commands) :
    ∃ answer ∈ r.answers, answer.command = command := by
  rw [← r.machine.map_command_answers r.commands] at mem
  exact List.mem_map.mp mem

/-- How a run ends. -/
inductive Ends (r : Run) : Prop where
  | unresolved (fault : Identity.Fault) (found : r.account = .error fault)
      (silent : r.commands = []) (failed : r.result = .error (.identity r.request.user fault))
  | unloaded (account : Account) (fault : Loading.Fault) (found : r.account = .ok account)
      (loaded : r.configuration = .error fault) (silent : r.commands = [])
      (failed : r.result = .error (.loading fault))
  | outside (account : Account) (c : Configuration) (fault : Configuration.OutsideWindow)
      (found : r.account = .ok account) (loaded : r.configuration = .ok c)
      (window : c.checkWindow account.uid = .error fault) (silent : r.commands = [])
      (failed : r.result = .error (.window fault))
  | served (account : Account) (c : Configuration) (outcomes : Except Fault (List (Kind × Outcome)))
      (found : r.account = .ok account) (loaded : r.configuration = .ok c)
      (window : c.checkWindow account.uid = .ok ())
      (course : (r.task account c).ServesAll r.kinds r.answers outcomes)
      (ended : r.result = outcomes.map (⟨account, ·⟩))

theorem run_resolve (argument : String) (s : Session) :
    ∃ t, (Identity.resolve argument).run s =
        ((Identity.find s.machine argument).map (·.1), t) ∧ s.Stretch [] t := by
  unfold Identity.resolve
  rw [Act.run_machineNow_bind]
  cases Identity.find s.machine argument with
  | error fault => exact ⟨s, rfl, .refl s⟩
  | ok found => exact ⟨s.told [found.2], rfl, (Session.Stretch.refl s).told _⟩

theorem stretch_loaded (s : Session) (sources : Sources) : s.Stretch [] (s.loaded sources) where
  machine := rfl
  commands := (List.append_nil _).symm
  verbose := s.loaded_verbose sources

theorem ends (r : Run) : r.Ends := by
  obtain ⟨result, stop, ran⟩ : ∃ result stop,
    (Assignment.run r.tools r.sources r.request).run r.start = (result, stop) := ⟨_, _, rfl⟩
  have results : r.result = result := by rw [Run.result, outcome, ran]
  have commands (cs : List Command) (stretch : r.start.Stretch cs stop) : r.commands = cs := by
    rw [Run.commands, outcome, ran]
    exact stretch.commands
  -- first the user, then the settings, then the window: none of them starts a command
  unfold Assignment.run at ran
  obtain ⟨found, t, resolved, came⟩ := Act.adapt_bind_cases ran
  obtain ⟨t', resolves, first⟩ := run_resolve r.request.user r.start
  rw [resolves] at resolved
  obtain ⟨rfl, rfl⟩ := Prod.mk.inj resolved
  rcases came with ⟨fault, unresolved, rfl, rfl⟩ | ⟨account, resolved, rest⟩
  · exact .unresolved fault unresolved (commands [] first) results
  obtain ⟨loaded, u, loads, came⟩ := Act.adapt_bind_cases rest
  rw [Act.run_load, first.machine] at loads
  obtain ⟨rfl, rfl⟩ := Prod.mk.inj loads
  have second := first.trans (stretch_loaded t' r.sources)
  rcases came with ⟨fault, unloaded, rfl, rfl⟩ | ⟨c, loaded, rest⟩
  · exact .unloaded account fault resolved unloaded (commands [] second) results
  have machine : (t'.loaded r.sources).machine = r.machine := second.machine
  cases window : c.checkWindow account.uid with
  | error fault =>
    simp only [window, Act.mapError_error, Act.run_settle_error_bind] at rest
    obtain ⟨rfl, rfl⟩ := Prod.mk.inj rest
    exact .outside account c fault resolved loaded window (commands [] second) results
  | ok =>
    simp only [window, Act.mapError_ok, Act.run_settle_ok_bind] at rest
    rcases Act.bind_cases rest with ⟨fault, serving, rfl⟩ | ⟨outcomes, v, serving, done⟩ <;>
      obtain ⟨cs, last, course⟩ := Task.serveAll_course serving <;>
      rw [Task.ofSession_stretch second, machine] at course
    · have whole := commands cs (second.trans last)
      refine .served account c (.error fault) resolved loaded window ?_ results
      rw [Run.answers, whole]
      exact course
    · obtain ⟨rfl, rfl⟩ := Prod.mk.inj done
      have whole := commands cs (second.trans last)
      refine .served account c (.ok outcomes) resolved loaded window ?_ results
      rw [Run.answers, whole]
      exact course

theorem served_of_mem {r : Run} {command : Command} (mem : command ∈ r.commands) :
    ∃ account c outcomes, r.account = .ok account ∧ r.configuration = .ok c ∧
      c.checkWindow account.uid = .ok () ∧
      (r.task account c).ServesAll r.kinds r.answers outcomes := by
  have silent (none : r.commands = []) : False := by
    rw [none] at mem
    cases mem
  cases r.ends with
  | unresolved fault found none => exact (silent none).elim
  | unloaded account fault found loaded none => exact (silent none).elim
  | outside account c fault found loaded window none => exact (silent none).elim
  | served account c outcomes found loaded window course ended =>
    exact ⟨account, c, outcomes, found, loaded, window, course⟩

/-- A run that comes to a report served each kind for the account that it reports. -/
theorem served_of_ok {r : Run} {report : Report} (ok : r.result = .ok report) :
    ∃ c, r.account = .ok report.account ∧ r.configuration = .ok c ∧
      (r.task report.account c).ServesAll r.kinds r.answers (.ok report.outcomes) := by
  cases r.ends with
  | unresolved fault found silent failed => cases ok.symm.trans failed
  | unloaded account fault found loaded silent failed => cases ok.symm.trans failed
  | outside account c fault found loaded window silent failed => cases ok.symm.trans failed
  | served account c outcomes found loaded window course ended =>
    cases outcomes with
    | error fault => cases ok.symm.trans ended
    | ok outcomes =>
      cases ok.symm.trans ended
      exact ⟨c, found, loaded, course⟩

/-! ## The step that fails -/

/-- Kinds in a row fail at one of them, and those before it were served. -/
theorem exists_failing {w : Task} {kinds : List Kind} {answers : List Answer}
    {r : Except Fault (List (Kind × Outcome))} (h : w.ServesAll kinds answers r) {fault : Fault}
    (failed : r = .error fault) :
    ∃ before kind after asked last outcomes, kinds = before ++ kind :: after ∧
      answers = asked ++ last ∧ w.ServesAll before asked (.ok outcomes) ∧
      w.Serves kind last (.error fault) := by
  induction h with
  | nil => cases failed
  | @stop kind kinds answers fault' serves =>
    cases failed
    exact ⟨[], kind, kinds, [], answers, [], rfl, rfl, .nil, serves⟩
  | @cons kind kinds answers rest outcome r serves others ih =>
    cases r with
    | ok outcomes => cases failed
    | error fault' =>
      obtain ⟨before, next, after, asked, last, outcomes, rfl, rfl, earlier, fails⟩ := ih failed
      exact ⟨kind :: before, next, after, answers ++ asked, last, (kind, outcome) :: outcomes, rfl,
        (List.append_assoc _ _ _).symm, .cons serves earlier, fails⟩

/-- The first step of the run that fails, and why: each step before it went well. -/
inductive FailsFirst (r : Run) : Fault → Prop where
  | identity {fault : Identity.Fault} (found : r.account = .error fault) :
      FailsFirst r (.identity r.request.user fault)
  | loading {account : Account} {fault : Loading.Fault} (found : r.account = .ok account)
      (loaded : r.configuration = .error fault) : FailsFirst r (.loading fault)
  | window {account : Account} {c : Configuration} {fault : Configuration.OutsideWindow}
      (found : r.account = .ok account) (loaded : r.configuration = .ok c)
      (outside : c.checkWindow account.uid = .error fault) : FailsFirst r (.window fault)
  | kind {account : Account} {c : Configuration} {fault : Fault} {before after : List Kind}
      {kind : Kind} {asked last : List Answer} {outcomes : List (Kind × Outcome)}
      (found : r.account = .ok account) (loaded : r.configuration = .ok c)
      (inside : c.checkWindow account.uid = .ok ()) (kinds : r.kinds = before ++ kind :: after)
      (answered : r.answers = asked ++ last)
      (earlier : (r.task account c).ServesAll before asked (.ok outcomes))
      (fails : (r.task account c).Serves kind last (.error fault)) : FailsFirst r fault

/-- A run that fails tells why its first failing step failed. -/
theorem failsFirst {r : Run} {fault : Fault} (failed : r.result = .error fault) :
    r.FailsFirst fault := by
  cases r.ends with
  | unresolved fault' found silent ended =>
    cases failed.symm.trans ended
    exact .identity found
  | unloaded account fault' found loaded silent ended =>
    cases failed.symm.trans ended
    exact .loading found loaded
  | outside account c fault' found loaded window silent ended =>
    cases failed.symm.trans ended
    exact .window found loaded window
  | served account c outcomes found loaded window course ended =>
    cases outcomes with
    | ok outcomes => cases failed.symm.trans ended
    | error fault' =>
      cases failed.symm.trans ended
      obtain ⟨before, kind, after, asked, last, outcomes, kinds, answered, earlier, fails⟩ :=
        exists_failing course rfl
      exact .kind found loaded window kinds answered earlier fails

/-! ## A small office -/

/-- A machine that knows two users, neither of whom has subordinate ids. -/
def office : Machine := { Machine.empty with
  accounts := [⟨"ann", 1000⟩, ⟨"bob", 1001⟩]
  exits := Machine.lineUp [(Tools.standard.queryTool, .exited 1)] }

/-- A request that is served in the office, with the settings that are built in. -/
def inOffice (user : String) (kinds : List Kind) (dryRun : Bool) : Run :=
  ⟨office, .everything, .standard, .standard, ⟨user, kinds, dryRun⟩⟩

end Run

end SubordinateIds.Assignment
