import SubordinateIds.Assignment
import SubordinateIds.Proofs.Answers

/-
  Courses — what can happen while a request is served

  Everything that serving can do is said once, as a set of courses. A course lists the
  answers that the machine gave, in order, and what came of them; each constructor is
  one way through the steps, with the tests it passed. `Queries` and `Grants` are the
  courses of the two tools, `Passes` those of the question whether a user is passed
  over, `Serves` those of one kind and `ServesAll` those of kinds in a row.

  The lemmas `present_course` to `serveAll_course` say that whatever a run of these acts
  came to, it followed a course, and that its session saw the answers of that course and
  no other command. Later proofs go by cases on the course and never look into the acts.
-/

namespace SubordinateIds.Assignment

open Machine (Answer)

/-- What stays fixed while the kinds of one request are served. -/
structure Task where
  tools : Tools
  account : Account
  configuration : Configuration
  dryRun : Bool
  environment : List (String × Octets)
  output : Stream

namespace Task

/-- The fault of a tool that did not end as it should have. -/
def toolFault (program : Path) : Except SystemError Exit → Tools.Fault
  | .error error => .notStarted program error
  | .ok exit => .ofExit program exit

/-- The query for a kind. -/
def query (w : Task) (kind : Kind) : Command where
  program := w.tools.queryTool
  arg0 := Tools.toldName w.tools.queryTool
  args := Tools.queryArgs w.account.name kind
  env := w.environment
  stdin := .null
  stdout := w.output
  stderr := w.output

/-- The command that adds a block of a kind. -/
def assignment (w : Task) (kind : Kind) (block : Block) : Command where
  program := w.tools.accountTool
  arg0 := Tools.toldName w.tools.accountTool
  args := Tools.assignArgs w.account.name kind block
  env := w.environment
  stdin := .null
  stdout := .inherit
  stderr := .inherit

/-- The courses of a query. -/
inductive Queries (w : Task) (kind : Kind) :
    List Answer → Except Tools.Fault Tools.Presence → Prop where
  | badName {fault : LoginName.Fault} (checked : LoginName.check w.account.name = .error fault) :
      Queries w kind [] (.error (.badName fault))
  | present (checked : LoginName.check w.account.name = .ok ()) :
      Queries w kind [⟨w.query kind, .ok (.exited 0)⟩] (.ok .present)
  | absent (checked : LoginName.check w.account.name = .ok ()) :
      Queries w kind [⟨w.query kind, .ok (.exited 1)⟩] (.ok .absent)
  | failed {ending : Except SystemError Exit} (checked : LoginName.check w.account.name = .ok ())
      (notPresent : ending ≠ .ok (.exited 0)) (notAbsent : ending ≠ .ok (.exited 1)) :
      Queries w kind [⟨w.query kind, ending⟩] (.error (toolFault w.tools.queryTool ending))

/-- The courses of a grant of `count` ids from `start` on. -/
inductive Grants (w : Task) (kind : Kind) (start count : UInt32) :
    List Answer → Except Tools.Fault Tools.Grant → Prop where
  | badName {fault : LoginName.Fault} (checked : LoginName.check w.account.name = .error fault) :
      Grants w kind start count [] (.error (.badName fault))
  | badBlock {fault : Block.Fault} (checked : LoginName.check w.account.name = .ok ())
      (made : Block.of start count = .error fault) :
      Grants w kind start count [] (.error (.badBlock fault))
  | planned {block : Block} (checked : LoginName.check w.account.name = .ok ())
      (made : Block.of start count = .ok block) (dry : w.dryRun = true) :
      Grants w kind start count [] (.ok (.planned block (w.assignment kind block).render))
  | applied {block : Block} (checked : LoginName.check w.account.name = .ok ())
      (made : Block.of start count = .ok block) (wet : w.dryRun = false) :
      Grants w kind start count [⟨w.assignment kind block, .ok (.exited 0)⟩] (.ok (.applied block))
  | failed {block : Block} {ending : Except SystemError Exit}
      (checked : LoginName.check w.account.name = .ok ())
      (made : Block.of start count = .ok block) (wet : w.dryRun = false)
      (ended : ending ≠ .ok (.exited 0)) :
      Grants w kind start count [⟨w.assignment kind block, ending⟩]
        (.error (toolFault w.tools.accountTool ending))

/-- The courses of the question whether the user is passed over. -/
inductive Passes (w : Task) (kind : Kind) : List Answer → Except Fault Bool → Prop where
  | unasked (off : w.configuration.skipIfExists = false) : Passes w kind [] (.ok false)
  | asked {answers : List Answer} {r : Except Tools.Fault Tools.Presence}
      (on : w.configuration.skipIfExists = true) (queried : w.Queries kind answers r) :
      Passes w kind answers
        ((r.map (· == .present)).mapError (.presence kind w.account.name))

/-- The courses of one kind. -/
inductive Serves (w : Task) (kind : Kind) : List Answer → Except Fault Outcome → Prop where
  | overlap {fault : Pool.Overlap}
      (inside : (w.configuration.pool kind).checkApart kind w.account.uid = .error fault) :
      Serves w kind [] (.error (.overlap fault))
  | unanswered {answers : List Answer} {fault : Fault}
      (outside : (w.configuration.pool kind).checkApart kind w.account.uid = .ok ())
      (passes : w.Passes kind answers (.error fault)) : Serves w kind answers (.error fault)
  | passedOver {answers : List Answer}
      (outside : (w.configuration.pool kind).checkApart kind w.account.uid = .ok ())
      (passes : w.Passes kind answers (.ok true)) : Serves w kind answers (.ok .alreadyAssigned)
  | unplaced {answers : List Answer} {fault : Placement.Fault}
      (outside : (w.configuration.pool kind).checkApart kind w.account.uid = .ok ())
      (passes : w.Passes kind answers (.ok false))
      (placed : Placement.place w.configuration.policy w.configuration.uidMin
        (w.configuration.pool kind) w.account.uid = .error fault) :
      Serves w kind answers (.error (.placement kind w.account.name fault))
  | placed {asked granted : List Answer} {start : UInt32} {r : Except Tools.Fault Tools.Grant}
      (outside : (w.configuration.pool kind).checkApart kind w.account.uid = .ok ())
      (passes : w.Passes kind asked (.ok false))
      (placed : Placement.place w.configuration.policy w.configuration.uidMin
        (w.configuration.pool kind) w.account.uid = .ok start)
      (grants : w.Grants kind start (w.configuration.pool kind).count granted r) :
      Serves w kind (asked ++ granted) ((r.map .granted).mapError (.grant kind w.account.name))

/-- The courses of kinds in a row. -/
inductive ServesAll (w : Task) :
    List Kind → List Answer → Except Fault (List (Kind × Outcome)) → Prop where
  | nil : ServesAll w [] [] (.ok [])
  | stop {kind : Kind} {kinds : List Kind} {answers : List Answer} {fault : Fault}
      (serves : w.Serves kind answers (.error fault)) :
      ServesAll w (kind :: kinds) answers (.error fault)
  | cons {kind : Kind} {kinds : List Kind} {answers rest : List Answer} {outcome : Outcome}
      {r : Except Fault (List (Kind × Outcome))} (serves : w.Serves kind answers (.ok outcome))
      (others : ServesAll w kinds rest r) :
      ServesAll w (kind :: kinds) (answers ++ rest) (r.map ((kind, outcome) :: ·))

/-! ## The acts follow their courses -/

/-- The task of a session in which kinds are about to be served. -/
def ofSession (tools : Tools) (account : Account) (c : Configuration) (dryRun : Bool)
    (s : Session) : Task where
  tools
  account
  configuration := c
  dryRun
  environment := Tools.environment s.machine
  output := if s.journal.verbose then .inherit else .null

variable {tools : Tools} {account : Account} {c : Configuration} {dryRun : Bool} {kind : Kind}
  {s t : Session}

theorem run_execute (command : Command) (s : Session) :
    (Tools.execute command).run s =
      ((s.machine.run command.program).1.mapError (.notStarted command.program),
        s.started command) := rfl

/-- A tool that is started, after something was reported, gets one answer. Either it is
that the tool does not start, or what follows goes by how the tool ended. -/
theorem execute_cases {α : Type} {command : Command} {events : List Event}
    {f : Exit → Act Tools.Fault α} {r : Except Tools.Fault α}
    (h : (Tools.execute command >>= f).run (s.told events) = (r, t)) :
    ∃ ending u, s.Stretch [command] u ∧ s.machine.answers [command] = [⟨command, ending⟩] ∧
      ((∃ error, ending = .error error ∧ r = .error (.notStarted command.program error) ∧ t = u) ∨
        ∃ exit, ending = .ok exit ∧ (f exit).run u = (r, t)) := by
  refine ⟨_, _, .of_told (.started (s.told events) command), rfl, ?_⟩
  rw [Act.run_bind, run_execute, Session.told_machine] at h
  cases ended : (s.machine.run command.program).1 with
  | error error =>
    rw [ended] at h
    obtain ⟨rfl, rfl⟩ := Prod.mk.inj h
    exact .inl ⟨error, rfl, rfl, rfl⟩
  | ok exit =>
    rw [ended] at h
    exact .inr ⟨exit, rfl, h⟩

variable (c dryRun) in
theorem present_course {r : Except Tools.Fault Tools.Presence}
    (h : (tools.present account.name kind).run s = (r, t)) :
    ∃ cs, s.Stretch cs t ∧
      (ofSession tools account c dryRun s).Queries kind (s.machine.answers cs) r := by
  unfold Tools.present at h
  cases checked : LoginName.check account.name with
  | error fault =>
    simp only [checked, Act.mapError_error, Act.run_settle_error_bind] at h
    obtain ⟨rfl, rfl⟩ := Prod.mk.inj h
    exact ⟨[], .refl s, .badName checked⟩
  | ok =>
    have query : Tools.command s.machine tools.queryTool (Tools.queryArgs account.name kind)
        (if s.journal.verbose = true then .inherit else .null) =
      (ofSession tools account c dryRun s).query kind := rfl
    simp only [checked, Act.mapError_ok, Act.run_settle_ok_bind, Act.run_isVerbose_bind,
      Act.run_machineNow_bind, Act.run_report_bind, query] at h
    obtain ⟨ending, u, stretch, answered, started⟩ := execute_cases h
    rcases started with ⟨error, rfl, rfl, rfl⟩ | ⟨exit, rfl, rest⟩
    · -- the tool did not start, which is neither of the two hoped-for answers
      refine ⟨_, stretch, ?_⟩
      rw [answered]
      exact .failed checked (by simp) (by simp)
    · split at rest <;> obtain ⟨rfl, rfl⟩ := Prod.mk.inj rest <;> refine ⟨_, stretch, ?_⟩ <;>
        rw [answered]
      · exact .present checked
      · exact .absent checked
      · rename_i notPresent notAbsent
        exact .failed checked (by simpa using notPresent) (by simpa using notAbsent)

theorem assign_course {start count : UInt32} {r : Except Tools.Fault Tools.Grant}
    (h : (tools.assign account.name kind start count dryRun).run s = (r, t)) :
    ∃ cs, s.Stretch cs t ∧
      (ofSession tools account c dryRun s).Grants kind start count (s.machine.answers cs) r := by
  unfold Tools.assign at h
  cases checked : LoginName.check account.name with
  | error fault =>
    simp only [checked, Act.mapError_error, Act.run_settle_error_bind] at h
    obtain ⟨rfl, rfl⟩ := Prod.mk.inj h
    exact ⟨[], .refl s, .badName checked⟩
  | ok =>
    cases made : Block.of start count with
    | error fault =>
      simp only [checked, made, Act.mapError_ok, Act.mapError_error, Act.run_settle_ok_bind,
        Act.run_settle_error_bind] at h
      obtain ⟨rfl, rfl⟩ := Prod.mk.inj h
      exact ⟨[], .refl s, .badBlock checked made⟩
    | ok block =>
      have assignment : Tools.command s.machine tools.accountTool
          (Tools.assignArgs account.name kind block) .inherit =
        (ofSession tools account c dryRun s).assignment kind block := rfl
      simp only [checked, made, Act.mapError_ok, Act.run_settle_ok_bind, Act.run_machineNow_bind,
        assignment] at h
      cases dryRun with
      | true =>
        obtain ⟨rfl, rfl⟩ := Prod.mk.inj h
        exact ⟨[], .refl s, .planned checked made rfl⟩
      | false =>
        simp only [Bool.false_eq_true, if_false, Act.run_report_bind] at h
        obtain ⟨ending, u, stretch, answered, started⟩ := execute_cases h
        rcases started with ⟨error, rfl, rfl, rfl⟩ | ⟨exit, rfl, rest⟩
        · refine ⟨_, stretch, ?_⟩
          rw [answered]
          exact .failed checked made rfl (by simp)
        · split at rest <;> obtain ⟨rfl, rfl⟩ := Prod.mk.inj rest <;> refine ⟨_, stretch, ?_⟩ <;>
            rw [answered]
          · exact .applied checked made rfl
          · rename_i notApplied
            exact .failed checked made rfl (by simpa using notApplied)

theorem ofSession_told (s : Session) (events : List Event) :
    ofSession tools account c dryRun (s.told events) = ofSession tools account c dryRun s := by
  simp [ofSession]

/-- The task is the same after a stretch: no command changes the environment. -/
theorem ofSession_stretch {cs : List Command} (stretch : s.Stretch cs t) :
    ofSession tools account c dryRun t = ofSession tools account c dryRun s := by
  have environment : Tools.environment t.machine = Tools.environment s.machine := by
    unfold Tools.environment Machine.envValue?
    rw [stretch.machine, Machine.environment_after]
  simp only [ofSession, environment, stretch.verbose]

variable (dryRun) in
theorem isServed_course {r : Except Fault Bool}
    (h : (isServed tools account c kind).run s = (r, t)) :
    ∃ cs, s.Stretch cs t ∧
      (ofSession tools account c dryRun s).Passes kind (s.machine.answers cs) r := by
  unfold isServed at h
  cases asked : c.skipIfExists with
  | false =>
    simp only [asked] at h
    obtain ⟨rfl, rfl⟩ := Prod.mk.inj h
    exact ⟨[], .refl s, .unasked asked⟩
  | true =>
    simp only [asked, Bool.not_true, Bool.false_eq_true, if_false] at h
    obtain ⟨r₀, u, queried, came⟩ := Act.adapt_bind_cases h
    obtain ⟨cs, stretch, course⟩ := present_course c dryRun queried
    have passes := Passes.asked asked course
    rcases came with ⟨fault, rfl, rfl, rfl⟩ | ⟨presence, rfl, rest⟩
    · exact ⟨cs, stretch, passes⟩
    · cases presence with
      | present =>
        obtain ⟨rfl, rfl⟩ := Prod.mk.inj rest
        exact ⟨cs, stretch.told _, passes⟩
      | absent =>
        obtain ⟨rfl, rfl⟩ := Prod.mk.inj rest
        exact ⟨cs, stretch, passes⟩

theorem serve_course {r : Except Fault Outcome}
    (h : (serve tools account c dryRun kind).run s = (r, t)) :
    ∃ cs, s.Stretch cs t ∧
      (ofSession tools account c dryRun s).Serves kind (s.machine.answers cs) r := by
  unfold serve at h
  rw [Act.run_report_bind] at h
  cases outside : (c.pool kind).checkApart kind account.uid with
  | error fault =>
    simp only [outside, Act.mapError_error, Act.run_settle_error_bind] at h
    obtain ⟨rfl, rfl⟩ := Prod.mk.inj h
    exact ⟨[], (Session.Stretch.refl s).told _, .overlap outside⟩
  | ok =>
    simp only [outside, Act.mapError_ok, Act.run_settle_ok_bind] at h
    rcases Act.bind_cases h with ⟨fault, passed, rfl⟩ | ⟨served, u, passed, rest⟩ <;>
      obtain ⟨cs, begun, passes⟩ := isServed_course dryRun passed <;>
      rw [ofSession_told] at passes <;> have stretch := begun.of_told
    · exact ⟨cs, stretch, .unanswered outside passes⟩
    cases served with
    | true =>
      obtain ⟨rfl, rfl⟩ := Prod.mk.inj rest
      exact ⟨cs, stretch, .passedOver outside passes⟩
    | false =>
      simp only [Bool.false_eq_true, if_false] at rest
      cases placed : Placement.place c.policy c.uidMin (c.pool kind) account.uid with
      | error fault =>
        simp only [placed, Act.mapError_error, Act.run_settle_error_bind] at rest
        obtain ⟨rfl, rfl⟩ := Prod.mk.inj rest
        exact ⟨cs, stretch, .unplaced outside passes placed⟩
      | ok start =>
        simp only [placed, Act.mapError_ok, Act.run_settle_ok_bind, Act.run_report_bind] at rest
        obtain ⟨r₀, v, assigned, came⟩ := Act.adapt_bind_cases rest
        obtain ⟨ds, ended, grants⟩ := assign_course (c := c) assigned
        -- the task at the grant is the one at the start, and the machine is further on
        rw [ofSession_told, ofSession_stretch stretch] at grants
        have course := Serves.placed outside passes placed grants
        rw [Session.told_machine, Session.told_machine, ← stretch.answers_trans] at course
        rcases came with ⟨fault, rfl, rfl, rfl⟩ | ⟨grant, rfl, granted⟩
        · exact ⟨cs ++ ds, stretch.trans ended.of_told, course⟩
        · obtain ⟨rfl, rfl⟩ := Prod.mk.inj granted
          exact ⟨cs ++ ds, stretch.trans ended.of_told, course⟩

theorem serveAll_course {kinds : List Kind} {r : Except Fault (List (Kind × Outcome))}
    (h : (kinds.mapM fun kind => do
      return (kind, ← serve tools account c dryRun kind) : Act Fault _).run s = (r, t)) :
    ∃ cs, s.Stretch cs t ∧
      (ofSession tools account c dryRun s).ServesAll kinds (s.machine.answers cs) r := by
  induction kinds generalizing s t r with
  | nil =>
    obtain ⟨rfl, rfl⟩ := Prod.mk.inj h
    exact ⟨[], .refl s, .nil⟩
  | cons kind kinds ih =>
    -- the others are served from where the first one left the session
    simp only [List.mapM_cons, bind_assoc, pure_bind] at h
    rcases Act.bind_cases h with ⟨fault, served, rfl⟩ | ⟨outcome, u, served, rest⟩ <;>
      obtain ⟨cs, stretch, serves⟩ := serve_course served
    · exact ⟨cs, stretch, .stop serves⟩
    · rcases Act.bind_cases rest with ⟨fault, others, rfl⟩ | ⟨outcomes, v, others, done⟩ <;>
        obtain ⟨ds, ended, course⟩ := ih others <;>
        rw [ofSession_stretch stretch] at course <;>
        have both := ServesAll.cons serves course <;>
        rw [← stretch.answers_trans] at both
      · exact ⟨cs ++ ds, stretch.trans ended, both⟩
      · obtain ⟨rfl, rfl⟩ := Prod.mk.inj done
        exact ⟨cs ++ ds, stretch.trans ended, both⟩

/-! ## Reading a course backwards -/

variable {w : Task} {answers : List Answer}

/-- What is asked before a block is given: nothing, or whether there are ids already, and
there are none. -/
inductive Asks (w : Task) (kind : Kind) : List Answer → Prop where
  | nothing (off : w.configuration.skipIfExists = false) : Asks w kind []
  | absent (on : w.configuration.skipIfExists = true)
      (checked : LoginName.check w.account.name = .ok ()) :
      Asks w kind [⟨w.query kind, .ok (.exited 1)⟩]

theorem Passes.of_false (h : w.Passes kind answers (.ok false)) : w.Asks kind answers := by
  generalize came : (.ok false : Except Fault Bool) = r at h
  cases h with
  | unasked off => exact .nothing off
  | asked on queried =>
    cases queried with
    | absent checked => exact .absent on checked
    | badName => cases came
    | present => cases came
    | failed => cases came

/-- What was found out before a block was granted, and which block it is. -/
theorem Serves.of_granted {grant : Tools.Grant} (h : w.Serves kind answers (.ok (.granted grant))) :
    ∃ start asked granted, answers = asked ++ granted ∧
      (w.configuration.pool kind).checkApart kind w.account.uid = .ok () ∧
      Placement.place w.configuration.policy w.configuration.uidMin
        (w.configuration.pool kind) w.account.uid = .ok start ∧
      w.Grants kind start (w.configuration.pool kind).count granted (.ok grant) := by
  generalize came : (.ok (.granted grant) : Except Fault Outcome) = r at h
  cases h with
  | placed outside passes placed grants =>
    rename_i asked granted start r
    cases r with
    | error fault => cases came
    | ok grant₀ =>
      cases came
      exact ⟨start, asked, granted, rfl, outside, placed, grants⟩
  | passedOver => cases came
  | overlap => cases came
  | unanswered => cases came
  | unplaced => cases came

theorem ServesAll.of_mem {kinds : List Kind} {r : Except Fault (List (Kind × Outcome))}
    (h : w.ServesAll kinds answers r) {outcomes : List (Kind × Outcome)} (came : r = .ok outcomes)
    {outcome : Outcome} (mem : (kind, outcome) ∈ outcomes) :
    ∃ part, part.Sublist answers ∧ w.Serves kind part (.ok outcome) := by
  induction h generalizing outcomes with
  | nil =>
    cases came
    cases mem
  | stop => cases came
  | @cons kind' kinds part rest outcome' r serves others ih =>
    cases r with
    | error fault => cases came
    | ok outcomes' =>
      cases came
      rcases List.mem_cons.mp mem with same | later
      · cases same
        exact ⟨part, List.sublist_append_left _ _, serves⟩
      · obtain ⟨part', sub, serves'⟩ := ih rfl later
        exact ⟨part', sub.trans (List.sublist_append_right _ _), serves'⟩

end Task

end SubordinateIds.Assignment
