import Mathlib.Data.List.Forall2
import SubordinateIds.Proofs.Assignment.Runs
import SubordinateIds.Proofs.Assignment.Starts
import SubordinateIds.Proofs.LoginName

/-
  Protocol — the commands of a run, and when they stop

  A run starts commands for a purpose: to ask whether the user has ids of a kind, or to
  add a block of a kind. The longest run asks and adds once for each kind that was
  requested, users first; every run starts some of these commands, in this order. A block
  is added only right after the answer that there are none, unless the question was
  switched off. After an answer that is not one of those hoped for, nothing more is
  started and the run fails.

  All of it is shown for the commands of one kind first, by the cases of `Started`, and
  then for kinds in a row by induction on their courses. The query tool and the account
  tool must be two programs: otherwise a command could not be told from the other.
-/

namespace SubordinateIds.Assignment

open Machine (Answer)

/-- What a command is started for. -/
inductive Purpose where
  | query (kind : Kind)
  | assignment (kind : Kind)
  deriving DecidableEq, Repr

namespace Purpose

/-- Whether a command that concerns the user of this name serves the purpose. -/
def Fits (tools : Tools) (name : String) : Purpose → Command → Prop
  | .query kind, c => c.program = tools.queryTool ∧ c.args = Tools.queryArgs name kind
  | .assignment kind, c =>
    c.program = tools.accountTool ∧ ∃ block, c.args = Tools.assignArgs name kind block

theorem Fits.unique {tools : Tools} {name : String} (distinct : tools.queryTool ≠ tools.accountTool)
    {p q : Purpose} {c : Command} (first : p.Fits tools name c) (second : q.Fits tools name c) :
    p = q := by
  cases p with
  | query kind =>
    cases q with
    | query kind' =>
      have same := first.2.symm.trans second.2
      cases kind <;> cases kind' <;> first | rfl | cases same
    | assignment => exact absurd (first.1.symm.trans second.1) distinct
  | assignment kind =>
    cases q with
    | query => exact absurd (second.1.symm.trans first.1) distinct
    | assignment kind' =>
      obtain ⟨-, block, args⟩ := first
      obtain ⟨-, block', args'⟩ := second
      have flags := (List.cons.inj (args.symm.trans args')).1
      rw [Kind.assignFlag_inj.mp flags]

/-- The purposes of a run that serves kinds, if nothing stops it. -/
def schedule (kinds : List Kind) : List Purpose :=
  kinds.flatMap fun kind => [.query kind, .assignment kind]

theorem schedule_nodup {kinds : List Kind} (nodup : kinds.Nodup) : (schedule kinds).Nodup := by
  rw [schedule, List.nodup_flatMap]
  refine ⟨by simp, nodup.imp ?_⟩
  intro kind kind' apart purpose mem mem'
  simp only [List.mem_cons, List.not_mem_nil, or_false] at mem mem'
  rcases mem with rfl | rfl <;> simp_all

variable {tools : Tools} {name : String} {purposes : List Purpose} {commands : List Command}

theorem exists_fitting (fits : List.Forall₂ (Fits tools name) purposes commands) {c : Command}
    (mem : c ∈ commands) : ∃ purpose ∈ purposes, purpose.Fits tools name c := by
  induction fits with
  | nil => cases mem
  | cons first rest ih =>
    rcases List.mem_cons.mp mem with rfl | later
    · exact ⟨_, List.mem_cons_self, first⟩
    · obtain ⟨purpose, listed, fits⟩ := ih later
      exact ⟨purpose, List.mem_cons_of_mem _ listed, fits⟩

theorem pairwise_of_fits (distinct : tools.queryTool ≠ tools.accountTool)
    (fits : List.Forall₂ (Fits tools name) purposes commands) (nodup : purposes.Nodup) :
    commands.Pairwise fun c d => ∀ purpose : Purpose,
      purpose.Fits tools name c → ¬purpose.Fits tools name d := by
  induction fits with
  | nil => exact .nil
  | @cons p c purposes commands first rest ih =>
    obtain ⟨new, others⟩ := List.nodup_cons.mp nodup
    refine .cons ?_ (ih others)
    intro d mem purpose serves serves'
    obtain ⟨q, listed, fits⟩ := exists_fitting rest mem
    rw [serves.unique distinct first] at serves'
    rw [serves'.unique distinct fits] at new
    exact new listed

end Purpose

/-- An answer after which a run must not go on. -/
def Unhoped (tools : Tools) (answer : Answer) : Prop :=
  (answer.command.program = tools.queryTool ∧
    answer.ending ≠ .ok (.exited 0) ∧ answer.ending ≠ .ok (.exited 1)) ∨
  (answer.command.program = tools.accountTool ∧ answer.ending ≠ .ok (.exited 0))

theorem split_append {α : Type} {xs ys before after : List α} {a : α}
    (h : xs ++ ys = before ++ a :: after) :
    (∃ rest, xs = before ++ a :: rest ∧ after = rest ++ ys) ∨
      ∃ front, before = xs ++ front ∧ ys = front ++ a :: after := by
  rcases List.append_eq_append_iff.mp h with ⟨front, rfl, rfl⟩ | ⟨rest, rfl, tail⟩
  · exact .inr ⟨front, rfl, rfl⟩
  · rcases List.cons_eq_append_iff.mp tail with ⟨rfl, rfl⟩ | ⟨rest, rfl, rfl⟩
    · exact .inr ⟨[], by simp, rfl⟩
    · exact .inl ⟨rest, rfl, rfl⟩

theorem split_singleton {α : Type} {x a : α} {before after : List α}
    (h : [x] = before ++ a :: after) : before = [] ∧ a = x ∧ after = [] := by
  rcases List.cons_eq_append_iff.mp h with ⟨empty, rest⟩ | ⟨front, -, none⟩
  · obtain ⟨same, last⟩ := List.cons.inj rest
    exact ⟨empty, same, last⟩
  · exact absurd none.symm (List.append_ne_nil_of_right_ne_nil _ (List.cons_ne_nil _ _))

namespace Task

variable {w : Task} {kind : Kind} {kinds : List Kind} {answers : List Answer}
  {r : Except Fault Outcome} {rs : Except Fault (List (Kind × Outcome))}

theorem query_fits (w : Task) (kind : Kind) :
    (Purpose.query kind).Fits w.tools w.account.name (w.query kind) :=
  ⟨rfl, rfl⟩

theorem assignment_fits (w : Task) (kind : Kind) (block : Block) :
    (Purpose.assignment kind).Fits w.tools w.account.name (w.assignment kind block) :=
  ⟨rfl, block, rfl⟩

/-! ## The commands are some of the schedule -/

theorem Started.scheduled (h : w.Started kind answers r) :
    ∃ purposes, purposes.Sublist [.query kind, .assignment kind] ∧
      List.Forall₂ (Purpose.Fits w.tools w.account.name) purposes (answers.map Answer.command) := by
  cases h with
  | nothing => exact ⟨[], List.nil_sublist _, .nil⟩
  | asked => exact ⟨[.query kind], by simp, .cons (w.query_fits kind) .nil⟩
  | @assigned asked block ending r checked wet asks =>
    have last := w.assignment_fits kind block
    cases asks with
    | nothing => exact ⟨[.assignment kind], by simp, .cons last .nil⟩
    | absent => exact ⟨_, .refl _, .cons (w.query_fits kind) (.cons last .nil)⟩

theorem ServesAll.scheduled (h : w.ServesAll kinds answers rs) :
    ∃ purposes, purposes.Sublist (Purpose.schedule kinds) ∧
      List.Forall₂ (Purpose.Fits w.tools w.account.name) purposes (answers.map Answer.command) := by
  induction h with
  | nil => exact ⟨[], List.nil_sublist _, .nil⟩
  | stop serves =>
    obtain ⟨purposes, sub, fits⟩ := serves.started.scheduled
    exact ⟨purposes, sub.trans (List.sublist_append_left _ _), fits⟩
  | cons serves others ih =>
    obtain ⟨purposes, sub, fits⟩ := serves.started.scheduled
    obtain ⟨purposes', sub', fits'⟩ := ih
    refine ⟨purposes ++ purposes', sub.append sub', ?_⟩
    rw [List.map_append]
    exact List.rel_append fits fits'

/-! ## What stands before a block is added -/

/-- The user was asked about right before, and had no ids of the kind. -/
def Preceded (w : Task) (before : List Answer) (assigns : Answer) : Prop :=
  ∃ front query kind, before = front ++ [⟨query, .ok (.exited 1)⟩] ∧
    (Purpose.query kind).Fits w.tools w.account.name query ∧
    (Purpose.assignment kind).Fits w.tools w.account.name assigns.command

theorem Started.preceded (h : w.Started kind answers r)
    (distinct : w.tools.queryTool ≠ w.tools.accountTool) (on : w.configuration.skipIfExists = true)
    {before after : List Answer} {a : Answer} (place : answers = before ++ a :: after)
    (assigns : a.command.program = w.tools.accountTool) : w.Preceded before a := by
  cases h with
  | nothing => simp at place
  | @asked ending =>
    obtain ⟨rfl, rfl, rfl⟩ := split_singleton place
    exact absurd assigns distinct
  | @assigned asked block ending r checked wet asks =>
    cases asks with
    | nothing off => rw [off] at on; cases on
    | absent =>
      rcases split_append place with ⟨rest, first, rfl⟩ | ⟨front, rfl, last⟩
      · obtain ⟨rfl, rfl, rfl⟩ := split_singleton first
        exact absurd assigns distinct
      · obtain ⟨rfl, rfl, rfl⟩ := split_singleton last
        exact ⟨[], _, kind, rfl, w.query_fits kind, w.assignment_fits kind block⟩

theorem ServesAll.preceded (h : w.ServesAll kinds answers rs)
    (distinct : w.tools.queryTool ≠ w.tools.accountTool) (on : w.configuration.skipIfExists = true)
    {before after : List Answer} {a : Answer} (place : answers = before ++ a :: after)
    (assigns : a.command.program = w.tools.accountTool) : w.Preceded before a := by
  induction h generalizing before after with
  | nil => simp at place
  | stop serves => exact serves.started.preceded distinct on place assigns
  | @cons kind kinds answers rest outcome r serves others ih =>
    rcases split_append place with ⟨rest', first, -⟩ | ⟨front, rfl, later⟩
    · exact serves.started.preceded distinct on first assigns
    · obtain ⟨front', query, kind', rfl, asked, assigned⟩ := ih later
      exact ⟨answers ++ front', query, kind', by rw [List.append_assoc], asked, assigned⟩

theorem Started.unasked (h : w.Started kind answers r)
    (distinct : w.tools.queryTool ≠ w.tools.accountTool)
    (off : w.configuration.skipIfExists = false) {a : Answer} (mem : a ∈ answers) :
    a.command.program ≠ w.tools.queryTool := by
  cases h with
  | nothing => cases mem
  | asked checked on => rw [off] at on; cases on
  | assigned checked wet asks =>
    cases asks with
    | nothing =>
      rw [List.nil_append, List.mem_singleton] at mem
      rw [mem]
      exact distinct.symm
    | absent on => rw [off] at on; cases on

theorem ServesAll.unasked (h : w.ServesAll kinds answers rs)
    (distinct : w.tools.queryTool ≠ w.tools.accountTool)
    (off : w.configuration.skipIfExists = false) {a : Answer} (mem : a ∈ answers) :
    a.command.program ≠ w.tools.queryTool := by
  induction h with
  | nil => cases mem
  | stop serves => exact serves.started.unasked distinct off mem
  | cons serves others ih =>
    rcases List.mem_append.mp mem with first | later
    · exact serves.started.unasked distinct off first
    · exact ih later

/-! ## Where a run stops -/

theorem Started.stops (h : w.Started kind answers r)
    (distinct : w.tools.queryTool ≠ w.tools.accountTool) {before after : List Answer} {a : Answer}
    (place : answers = before ++ a :: after) (unhoped : Unhoped w.tools a) :
    after = [] ∧ ∃ fault, r = .error fault := by
  cases h with
  | nothing => simp at place
  | @asked ending r checked on unapplied verdict =>
    obtain ⟨rfl, rfl, rfl⟩ := split_singleton place
    refine ⟨rfl, ?_⟩
    rcases unhoped with ⟨-, notPresent, notAbsent⟩ | ⟨program, -⟩
    · exact (verdict.resolve_left notPresent).resolve_left notAbsent
    · exact absurd program distinct
  | @assigned asked block ending r checked wet asks places verdict =>
    rcases split_append place with ⟨rest, first, rfl⟩ | ⟨front, rfl, last⟩
    · cases asks with
      | nothing => simp at first
      | absent =>
        -- the block is only added after the one answer that is hoped for
        obtain ⟨rfl, rfl, rfl⟩ := split_singleton first
        rcases unhoped with ⟨-, -, notAbsent⟩ | ⟨program, -⟩
        · exact absurd rfl notAbsent
        · exact absurd program distinct
    · obtain ⟨rfl, rfl, rfl⟩ := split_singleton last
      refine ⟨rfl, ?_⟩
      rcases unhoped with ⟨program, -⟩ | ⟨-, notDone⟩
      · exact absurd program.symm distinct
      · exact (verdict.resolve_left fun done => notDone done.1).2

/-- After an answer that is not hoped for nothing more is started, and no kind is
reported. -/
theorem ServesAll.stops (h : w.ServesAll kinds answers rs)
    (distinct : w.tools.queryTool ≠ w.tools.accountTool) {before after : List Answer} {a : Answer}
    (place : answers = before ++ a :: after) (unhoped : Unhoped w.tools a) :
    after = [] ∧ ∃ fault, rs = .error fault := by
  induction h generalizing before after with
  | nil => simp at place
  | stop serves =>
    obtain ⟨last, -⟩ := serves.started.stops distinct place unhoped
    exact ⟨last, _, rfl⟩
  | @cons kind kinds answers rest outcome r serves others ih =>
    rcases split_append place with ⟨rest', first, -⟩ | ⟨front, rfl, later⟩
    · -- then this kind would have failed, but it came to an outcome
      obtain ⟨-, fault, failed⟩ := serves.started.stops distinct first unhoped
      cases failed
    · obtain ⟨last, fault, rfl⟩ := ih later
      exact ⟨last, fault, rfl⟩

/-! ## What is reported -/

theorem ServesAll.map_fst (h : w.ServesAll kinds answers rs) {outcomes : List (Kind × Outcome)}
    (came : rs = .ok outcomes) : outcomes.map Prod.fst = kinds := by
  induction h generalizing outcomes with
  | nil =>
    cases came
    rfl
  | stop => cases came
  | @cons kind kinds answers rest outcome r serves others ih =>
    cases r with
    | error => cases came
    | ok outcomes' =>
      cases came
      rw [List.map_cons, ih rfl]

theorem assignArgs_inj {name : String} {a b : Block} {kind' : Kind} :
    Tools.assignArgs name kind a = Tools.assignArgs name kind' b ↔ kind = kind' ∧ a = b := by
  simp [Tools.assignArgs, Kind.assignFlag_inj, Block.render_inj]

theorem Asks.program_ne (h : w.Asks kind answers)
    (distinct : w.tools.queryTool ≠ w.tools.accountTool) {a : Answer} (mem : a ∈ answers) :
    a.command.program ≠ w.tools.accountTool := by
  cases h with
  | nothing => cases mem
  | absent =>
    rw [List.mem_singleton] at mem
    rw [mem]
    exact distinct

/-- A kind comes to a block that was added exactly if the account tool was told to add it. -/
theorem Started.applied_iff {outcome : Outcome} (h : w.Started kind answers (.ok outcome))
    (distinct : w.tools.queryTool ≠ w.tools.accountTool) {kind' : Kind} {block : Block} :
    (kind', Outcome.granted (.applied block)) = (kind, outcome) ↔
      ∃ a ∈ answers, a.command.program = w.tools.accountTool ∧
        a.command.args = Tools.assignArgs w.account.name kind' block := by
  generalize came : (.ok outcome : Except Fault Outcome) = r at h
  cases h with
  | nothing unapplied =>
    simp only [List.not_mem_nil, false_and, exists_false, iff_false]
    intro same
    cases same
    exact unapplied block came.symm
  | asked checked on unapplied =>
    constructor
    · intro same
      cases same
      exact absurd came.symm (unapplied block)
    · intro h
      obtain ⟨a, mem, program, -⟩ := h
      rw [List.mem_singleton] at mem
      rw [mem] at program
      exact absurd program distinct
  | @assigned asked block' ending r checked wet asks places verdict =>
    rcases verdict with ⟨-, rfl⟩ | ⟨-, fault, rfl⟩
    · cases came
      constructor
      · intro same
        cases same
        exact ⟨_, List.mem_append_right _ List.mem_cons_self, rfl, rfl⟩
      · intro h
        obtain ⟨a, mem, program, args⟩ := h
        rcases List.mem_append.mp mem with before | last
        · exact absurd program (asks.program_ne distinct before)
        · rw [List.mem_singleton] at last
          rw [last] at args
          obtain ⟨rfl, rfl⟩ := assignArgs_inj.mp args
          rfl
    · cases came

theorem ServesAll.applied_iff (h : w.ServesAll kinds answers rs)
    (distinct : w.tools.queryTool ≠ w.tools.accountTool) {outcomes : List (Kind × Outcome)}
    (came : rs = .ok outcomes) {kind' : Kind} {block : Block} :
    (kind', Outcome.granted (.applied block)) ∈ outcomes ↔
      ∃ a ∈ answers, a.command.program = w.tools.accountTool ∧
        a.command.args = Tools.assignArgs w.account.name kind' block := by
  induction h generalizing outcomes with
  | nil =>
    cases came
    simp
  | stop => cases came
  | @cons kind kinds answers rest outcome r serves others ih =>
    cases r with
    | error => cases came
    | ok outcomes' =>
      cases came
      rw [List.mem_cons, serves.started.applied_iff distinct, ih rfl]
      simp only [List.mem_append, or_and_right, exists_or]

end Task

/-! ## The protocol of a run -/

namespace Run

/-- What holds of the commands of a run that serves kinds. -/
structure FailClosed (r : Run) (account : Account) (c : Configuration) : Prop where
  scheduled : ∃ purposes, purposes.Sublist (Purpose.schedule r.kinds) ∧
    List.Forall₂ (Purpose.Fits r.tools account.name) purposes r.commands
  once : r.commands.Pairwise fun c d => ∀ purpose : Purpose,
    purpose.Fits r.tools account.name c → ¬purpose.Fits r.tools account.name d
  preceded : c.skipIfExists = true → ∀ before a after, r.answers = before ++ a :: after →
    a.command.program = r.tools.accountTool →
      ∃ front query kind, before = front ++ [⟨query, .ok (.exited 1)⟩] ∧
        (Purpose.query kind).Fits r.tools account.name query ∧
        (Purpose.assignment kind).Fits r.tools account.name a.command
  unasked : c.skipIfExists = false → ∀ command ∈ r.commands, command.program ≠ r.tools.queryTool
  stops : ∀ before a after, r.answers = before ++ a :: after → Unhoped r.tools a →
    after = [] ∧ ∃ fault, r.result = .error fault
  reported : ∀ report, r.result = .ok report → report.outcomes.map Prod.fst = r.kinds
  applied : ∀ report, r.result = .ok report → ∀ kind block,
    (kind, .granted (.applied block)) ∈ report.outcomes ↔
      ∃ a ∈ r.answers, a.command.program = r.tools.accountTool ∧
        a.command.args = [kind.assignFlag, block.render, account.name] ∧
        a.ending = .ok (.exited 0)

/-- The commands of a run that serves kinds are some of its schedule. -/
theorem exists_purposes {r : Run} {account : Account} {c : Configuration}
    {outcomes : Except Fault (List (Kind × Outcome))}
    (course : (r.task account c).ServesAll r.kinds r.answers outcomes) :
    ∃ purposes, purposes.Sublist (Purpose.schedule r.kinds) ∧
      List.Forall₂ (Purpose.Fits r.tools account.name) purposes r.commands := by
  obtain ⟨purposes, sub, fits⟩ := course.scheduled
  rw [answers, Machine.map_command_answers] at fits
  exact ⟨purposes, sub, fits⟩

theorem once_of_course {r : Run} {account : Account} {c : Configuration}
    {outcomes : Except Fault (List (Kind × Outcome))}
    (distinct : r.tools.queryTool ≠ r.tools.accountTool)
    (course : (r.task account c).ServesAll r.kinds r.answers outcomes) :
    r.commands.Pairwise fun c d => ∀ purpose : Purpose,
      purpose.Fits r.tools account.name c → ¬purpose.Fits r.tools account.name d := by
  obtain ⟨purposes, sub, fits⟩ := exists_purposes course
  have nodup : r.kinds.Nodup := List.Nodup.filter _ (by decide)
  exact Purpose.pairwise_of_fits distinct fits (sub.nodup (Purpose.schedule_nodup nodup))

theorem FailClosed.of_course {r : Run} {account : Account} {c : Configuration}
    {outcomes : Except Fault (List (Kind × Outcome))}
    (distinct : r.tools.queryTool ≠ r.tools.accountTool)
    (course : (r.task account c).ServesAll r.kinds r.answers outcomes)
    (ended : r.result = outcomes.map (⟨account, ·⟩)) : r.FailClosed account c := by
  have stops (before : List Answer) (a : Answer) (after : List Answer)
      (place : r.answers = before ++ a :: after) (unhoped : Unhoped r.tools a) :
      after = [] ∧ ∃ fault, r.result = .error fault := by
    obtain ⟨last, fault, rfl⟩ := course.stops distinct place unhoped
    exact ⟨last, fault, ended⟩
  have came (report : Report) (ok : r.result = .ok report) : outcomes = .ok report.outcomes := by
    cases outcomes with
    | error => rw [ended] at ok; cases ok
    | ok outcomes =>
      rw [ended] at ok
      cases ok
      rfl
  refine ⟨exists_purposes course, once_of_course distinct course, ?_, ?_, stops, ?_, ?_⟩
  · intro on before a after place assigns
    exact course.preceded distinct on place assigns
  · intro off command mem
    obtain ⟨a, answered, rfl⟩ := exists_answer mem
    exact course.unasked distinct off answered
  · intro report ok
    exact course.map_fst (came report ok)
  · intro report ok kind block
    rw [course.applied_iff distinct (came report ok)]
    constructor
    · intro h
      obtain ⟨a, mem, program, args⟩ := h
      refine ⟨a, mem, program, args, ?_⟩
      -- otherwise the run would have failed here
      by_contra notDone
      obtain ⟨before, after, place⟩ := List.append_of_mem mem
      obtain ⟨-, fault, failed⟩ := stops before a after place (.inr ⟨program, notDone⟩)
      rw [ok] at failed
      cases failed
    · intro h
      obtain ⟨a, mem, program, args, -⟩ := h
      exact ⟨a, mem, program, args⟩

/-- All went well before a command: the user was found, the configuration was loaded, the
user id is in the window, and each command before it got an answer that is hoped for. -/
structure Cleared (r : Run) (command : Command) : Prop where
  settled : ∃ account c, r.account = .ok account ∧ r.configuration = .ok c ∧
    c.checkWindow account.uid = .ok ()
  hoped : ∀ before a after, r.answers = before ++ a :: after → a.command = command →
    ∀ b ∈ before, ¬Unhoped r.tools b

/-- No command is started unless all went well before it. -/
theorem cleared {r : Run} (distinct : r.tools.queryTool ≠ r.tools.accountTool)
    {command : Command} (mem : command ∈ r.commands) : r.Cleared command := by
  obtain ⟨account, c, outcomes, found, loaded, window, course⟩ := served_of_mem mem
  refine ⟨⟨account, c, found, loaded, window⟩, ?_⟩
  intro before a after place same b earlier unhoped
  -- an answer that is not hoped for is the last one, and this one is not
  obtain ⟨front, back, rfl⟩ := List.append_of_mem earlier
  rw [List.append_assoc, List.cons_append] at place
  obtain ⟨none, -⟩ := course.stops distinct place unhoped
  exact List.append_ne_nil_of_right_ne_nil _ (List.cons_ne_nil _ _) none

/-- A run starts nothing before the user, the configuration and the window are settled, and
then keeps to the protocol. -/
theorem fail_closed (r : Run) (distinct : r.tools.queryTool ≠ r.tools.accountTool) :
    (∀ fault, r.account = .error fault → r.commands = []) ∧
      (∀ fault, r.configuration = .error fault → r.commands = []) ∧
      (∀ account c fault, r.account = .ok account → r.configuration = .ok c →
        c.checkWindow account.uid = .error fault → r.commands = []) ∧
      ∀ account c, r.account = .ok account → r.configuration = .ok c →
        c.checkWindow account.uid = .ok () → r.FailClosed account c := by
  cases r.ends with
  | unresolved fault found silent =>
    refine ⟨fun _ _ => silent, fun _ _ => silent, fun _ _ _ _ _ _ => silent, ?_⟩
    intro account c found'
    rw [found] at found'
    cases found'
  | unloaded account fault found loaded silent =>
    refine ⟨fun _ _ => silent, fun _ _ => silent, fun _ _ _ _ _ _ => silent, ?_⟩
    intro account c found' loaded'
    rw [loaded] at loaded'
    cases loaded'
  | outside account c fault found loaded window silent =>
    refine ⟨fun _ _ => silent, fun _ _ => silent, fun _ _ _ _ _ _ => silent, ?_⟩
    intro account' c' found' loaded' window'
    rw [found] at found'
    rw [loaded] at loaded'
    cases found'
    cases loaded'
    rw [window] at window'
    cases window'
  | served account c outcomes found loaded window course ended =>
    have settled {account' : Account} {c' : Configuration} (found' : r.account = .ok account')
        (loaded' : r.configuration = .ok c') : account' = account ∧ c' = c := by
      rw [found] at found'
      rw [loaded] at loaded'
      exact ⟨(Except.ok.inj found').symm, (Except.ok.inj loaded').symm⟩
    refine ⟨?_, ?_, ?_, ?_⟩
    · intro fault failed
      rw [found] at failed
      cases failed
    · intro fault failed
      rw [loaded] at failed
      cases failed
    · intro account' c' fault found' loaded' failed
      obtain ⟨rfl, rfl⟩ := settled found' loaded'
      rw [window] at failed
      cases failed
    · intro account' c' found' loaded' _
      obtain ⟨rfl, rfl⟩ := settled found' loaded'
      exact .of_course distinct course ended

/-- A user who asks for both kinds in the wrong order, one of them twice. -/
theorem fail_closed_office :
    Tools.standard.queryTool ≠ Tools.standard.accountTool ∧
      (inOffice "ann" [.group, .user, .group] false).FailClosed ⟨"ann", 1000⟩ .default :=
  have distinct : Tools.standard.queryTool ≠ Tools.standard.accountTool := by decide
  ⟨distinct, (fail_closed (inOffice "ann" [.group, .user, .group] false) distinct).2.2.2
    ⟨"ann", 1000⟩ .default (by decide +kernel) rfl (by decide)⟩

end Run

end SubordinateIds.Assignment
