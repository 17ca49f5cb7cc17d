import SubordinateIds.Proofs.Assignment.Runs
import SubordinateIds.Proofs.Block

/-
  Starts — which commands a kind starts, and what they come to

  Of the courses of one kind, three cases are left here: it starts nothing, or it asks
  and goes no further, or it adds the block that the task has for the kind, after asking
  if it had to ask. `Started` lists them, each with the verdict that follows from how
  the last command ended. What holds of every command of a run is shown by these cases.

  A task has at most one block for a kind (`Places.unique`). So a block that is reported
  and a block that is handed to the account tool are the same one.
-/

namespace SubordinateIds

theorem Kind.assignFlag_inj {a b : Kind} : a.assignFlag = b.assignFlag ↔ a = b := by
  cases a <;> cases b <;> decide

/-- The block of a grant, whether it was applied or only planned. -/
def Tools.Grant.block : Tools.Grant → Block
  | .applied block => block
  | .planned block _ => block

namespace Assignment

open Machine (Answer)

namespace Task

variable {w : Task} {kind : Kind} {answers : List Answer} {block : Block}

/-- The block that the task has for a kind: the user id is apart from the kind's pool, and
the block is where the placement puts it. -/
structure Places (w : Task) (kind : Kind) (block : Block) : Prop where
  apart : (w.configuration.pool kind).checkApart kind w.account.uid = .ok ()
  start : Placement.place w.configuration.policy w.configuration.uidMin
    (w.configuration.pool kind) w.account.uid = .ok block.start
  count : block.count = (w.configuration.pool kind).count

theorem Places.unique {a b : Block} (first : w.Places kind a) (second : w.Places kind b) :
    a = b := by
  have starts := first.start.symm.trans second.start
  exact Block.ext_start_count (Except.ok.inj starts) (first.count.trans second.count.symm)

/-- What one kind starts, and what that comes to. -/
inductive Started (w : Task) (kind : Kind) : List Answer → Except Fault Outcome → Prop where
  | nothing {r : Except Fault Outcome} (unapplied : ∀ block, r ≠ .ok (.granted (.applied block))) :
      Started w kind [] r
  | asked {ending : Except SystemError Exit} {r : Except Fault Outcome}
      (checked : LoginName.check w.account.name = .ok ())
      (on : w.configuration.skipIfExists = true)
      (unapplied : ∀ block, r ≠ .ok (.granted (.applied block)))
      (verdict : ending = .ok (.exited 0) ∨ ending = .ok (.exited 1) ∨ ∃ fault, r = .error fault) :
      Started w kind [⟨w.query kind, ending⟩] r
  | assigned {asked : List Answer} {block : Block} {ending : Except SystemError Exit}
      {r : Except Fault Outcome} (checked : LoginName.check w.account.name = .ok ())
      (wet : w.dryRun = false) (asks : w.Asks kind asked) (places : w.Places kind block)
      (verdict : (ending = .ok (.exited 0) ∧ r = .ok (.granted (.applied block))) ∨
        (ending ≠ .ok (.exited 0) ∧ ∃ fault, r = .error fault)) :
      Started w kind (asked ++ [⟨w.assignment kind block, ending⟩]) r

theorem Grants.block_eq {start count : UInt32} {grant : Tools.Grant}
    (h : w.Grants kind start count answers (.ok grant)) :
    grant.block.start = start ∧ grant.block.count = count := by
  cases h with
  | planned checked made dry => exact Block.of_eq_ok_iff.mp made
  | applied checked made wet => exact Block.of_eq_ok_iff.mp made

theorem Serves.places {grant : Tools.Grant} (h : w.Serves kind answers (.ok (.granted grant))) :
    w.Places kind grant.block := by
  obtain ⟨start, asked, granted, -, apart, placed, grants⟩ := h.of_granted
  obtain ⟨rfl, count⟩ := grants.block_eq
  exact ⟨apart, placed, count⟩

theorem Asks.started (h : w.Asks kind answers) {r : Except Fault Outcome}
    (unapplied : ∀ block, r ≠ .ok (.granted (.applied block))) : w.Started kind answers r := by
  cases h with
  | nothing => exact .nothing unapplied
  | absent on checked => exact .asked checked on unapplied (.inr (.inl rfl))

theorem Passes.started {r : Except Fault Bool} {outcome : Except Fault Outcome}
    (h : w.Passes kind answers r) (settled : r ≠ .ok false)
    (unapplied : ∀ block, outcome ≠ .ok (.granted (.applied block)))
    (kept : ∀ fault, r = .error fault → outcome = .error fault) :
    w.Started kind answers outcome := by
  cases h with
  | unasked => exact absurd rfl settled
  | asked on queried =>
    cases queried with
    | badName => exact .nothing unapplied
    | present checked => exact .asked checked on unapplied (.inl rfl)
    | absent checked => exact .asked checked on unapplied (.inr (.inl rfl))
    | failed checked => exact .asked checked on unapplied (.inr (.inr ⟨_, kept _ rfl⟩))

theorem Serves.started {r : Except Fault Outcome} (h : w.Serves kind answers r) :
    w.Started kind answers r := by
  cases h with
  | overlap => exact .nothing (by simp)
  | unanswered apart passes =>
    exact passes.started (by simp) (by simp) (fun fault same => congrArg _ (Except.error.inj same))
  | passedOver apart passes => exact passes.started (by simp) (by simp) (by simp)
  | unplaced apart passes => exact passes.of_false.started (by simp)
  | @placed asked granted start r apart passes placed grants =>
    have asks := passes.of_false
    have places {block : Block} (made : Block.of start (w.configuration.pool kind).count = .ok block) :
        w.Places kind block := by
      obtain ⟨rfl, count⟩ := Block.of_eq_ok_iff.mp made
      exact ⟨apart, placed, count⟩
    -- a grant that starts no command leaves only what was asked before it
    cases grants with
    | badName =>
      rw [List.append_nil]
      exact asks.started (by simp [Except.map])
    | badBlock =>
      rw [List.append_nil]
      exact asks.started (by simp [Except.map])
    | planned =>
      rw [List.append_nil]
      exact asks.started (by simp [Except.map])
    | applied checked made wet =>
      exact .assigned checked wet asks (places made) (.inl ⟨rfl, rfl⟩)
    | failed checked made wet ended =>
      exact .assigned checked wet asks (places made) (.inr ⟨ended, _, rfl⟩)

/-- The command is the query of the kind, or adds the block that the task has for it; and the
name of the account may stand in a command. -/
structure Owns (w : Task) (kind : Kind) (command : Command) : Prop where
  checked : LoginName.check w.account.name = .ok ()
  cases : command = w.query kind ∨
    ∃ block, w.dryRun = false ∧ w.Places kind block ∧ command = w.assignment kind block

theorem Started.owns {r : Except Fault Outcome} (h : w.Started kind answers r)
    {answer : Answer} (mem : answer ∈ answers) : w.Owns kind answer.command := by
  cases h with
  | nothing => cases mem
  | asked checked =>
    rw [List.mem_singleton] at mem
    exact ⟨checked, .inl (by rw [mem])⟩
  | @assigned asked block ending r checked wet asks places =>
    refine ⟨checked, ?_⟩
    rcases List.mem_append.mp mem with before | last
    · cases asks with
      | nothing => cases before
      | absent =>
        rw [List.mem_singleton] at before
        exact .inl (by rw [before])
    · rw [List.mem_singleton] at last
      exact .inr ⟨block, wet, places, by rw [last]⟩

theorem ServesAll.owns {kinds : List Kind} {r : Except Fault (List (Kind × Outcome))}
    (h : w.ServesAll kinds answers r) {answer : Answer} (mem : answer ∈ answers) :
    ∃ kind ∈ kinds, w.Owns kind answer.command := by
  induction h with
  | nil => cases mem
  | stop serves => exact ⟨_, List.mem_cons_self, serves.started.owns mem⟩
  | cons serves others ih =>
    rcases List.mem_append.mp mem with first | later
    · exact ⟨_, List.mem_cons_self, serves.started.owns first⟩
    · obtain ⟨kind, asked, owns⟩ := ih later
      exact ⟨kind, List.mem_cons_of_mem _ asked, owns⟩

end Task

/-- Every command of a run belongs to a kind that was asked for, in the task of the run. -/
theorem Run.owns {r : Run} {command : Command} (mem : command ∈ r.commands) :
    ∃ account c, r.account = .ok account ∧ r.configuration = .ok c ∧
      ∃ kind ∈ r.kinds, (r.task account c).Owns kind command := by
  obtain ⟨account, c, outcomes, found, loaded, -, course⟩ := served_of_mem mem
  obtain ⟨answer, answered, rfl⟩ := exists_answer mem
  exact ⟨account, c, found, loaded, course.owns answered⟩

end Assignment

end SubordinateIds
