import SubordinateIds.Proofs.Assignment.Runs
import SubordinateIds.Proofs.Assignment.Starts
import SubordinateIds.Proofs.LoginName
import SubordinateIds.Proofs.Placement

/-
  Separation — the blocks that two runs give out under the strict policy

  Two runs need not share a machine, the sources or the request. If they place blocks of
  a kind by the same floor and the same pool and neither may wrap, then the blocks they
  report lie in the pool, one user id always gets the same block, and the blocks of two
  user ids stand apart, in the order of the user ids.

  A block that is reported is also the one that the account tool is told: `Tells` says
  this of the commands that were started, and of the command that a dry run shows.
-/

namespace SubordinateIds.Assignment

open Machine (Answer)

namespace Run

variable {r : Run} {account : Account} {kind : Kind} {grant : Tools.Grant}

/-- The run reports that the account was granted a block of the kind. -/
def Reports (r : Run) (account : Account) (kind : Kind) (grant : Tools.Grant) : Prop :=
  ∃ outcomes, r.result = .ok ⟨account, outcomes⟩ ∧ (kind, .granted grant) ∈ outcomes

/-- The first and the last id of a block in decimal, with a hyphen between them. -/
def range (block : Block) : String :=
  Nat.repr block.start.toNat ++ "-" ++ Nat.repr (block.start.toNat + block.count.toNat - 1)

/-- The account tool is told a block that was granted, and no other block of the kind. If
it was only planned, the account tool is told nothing, and the command that is shown
instead names the block. -/
def Tells (r : Run) (account : Account) (kind : Kind) : Tools.Grant → Prop
  | .applied block =>
    (∃ command ∈ r.commands, command.program = r.tools.accountTool ∧
      command.args = [kind.assignFlag, range block, account.name]) ∧
    ∀ command ∈ r.commands, command.args.head? = some kind.assignFlag →
      command.program = r.tools.accountTool ∧
        command.args = [kind.assignFlag, range block, account.name]
  | .planned block shown =>
    shown = r.tools.accountTool.display ++ " " ++ kind.assignFlag ++ " " ++ range block ++ " " ++
      account.name ∧
    ∀ command ∈ r.commands, command.args.head? ≠ some kind.assignFlag

theorem Reports.served (h : r.Reports account kind grant) :
    ∃ c part, r.configuration = .ok c ∧ part.Sublist r.answers ∧
      (∃ outcomes, (r.task account c).ServesAll r.kinds r.answers outcomes) ∧
      (r.task account c).Serves kind part (.ok (.granted grant)) := by
  obtain ⟨outcomes, reported, mem⟩ := h
  obtain ⟨c, -, loaded, course⟩ := served_of_ok reported
  obtain ⟨part, sub, serves⟩ := course.of_mem rfl mem
  exact ⟨c, part, loaded, sub, ⟨_, course⟩, serves⟩

theorem Reports.places (h : r.Reports account kind grant) {c : Configuration}
    (loaded : r.configuration = .ok c) : (r.task account c).Places kind grant.block := by
  obtain ⟨c', part, loaded', sub, -, serves⟩ := h.served
  rw [loaded] at loaded'
  cases loaded'
  exact serves.places

theorem query_unflagged {w : Task} (checked : LoginName.check w.account.name = .ok ())
    (asked : Kind) : (w.query asked).args.head? ≠ some kind.assignFlag := by
  intro flag
  -- a query for user ids begins with the name, and no name begins with a hyphen
  cases asked with
  | user => exact LoginName.ne_assignFlag checked kind (Option.some.inj flag)
  | group =>
    have option : "-g" = kind.assignFlag := Option.some.inj flag
    cases kind <;> exact absurd option (by decide)

theorem flagged {c : Configuration} {outcomes : Except Fault (List (Kind × Outcome))}
    (course : (r.task account c).ServesAll r.kinds r.answers outcomes) {command : Command}
    (mem : command ∈ r.commands) (flag : command.args.head? = some kind.assignFlag) :
    ∃ block, (r.task account c).dryRun = false ∧ (r.task account c).Places kind block ∧
      command = (r.task account c).assignment kind block := by
  obtain ⟨answer, answered, rfl⟩ := exists_answer mem
  obtain ⟨kind', -, checked, query | ⟨block, wet, places, assigns⟩⟩ :=
    course.owns answered
  · rw [query] at flag
    exact absurd flag (query_unflagged checked kind')
  · have same : kind' = kind := by
      rw [assigns] at flag
      exact Kind.assignFlag_inj.mp (Option.some.inj flag)
    subst same
    exact ⟨block, wet, places, assigns⟩

theorem args_assignment (w : Task) (kind : Kind) (block : Block) :
    (w.assignment kind block).args = [kind.assignFlag, range block, w.account.name] := by
  rw [range, ← Block.render_eq]
  rfl

theorem Reports.tells (h : r.Reports account kind grant) : r.Tells account kind grant := by
  obtain ⟨c, part, loaded, sub, ⟨outcomes, course⟩, serves⟩ := h.served
  have placed := serves.places
  obtain ⟨start, asked, granted, rfl, -, -, grants⟩ := serves.of_granted
  cases grants with
  | applied checked made wet =>
    rename_i block
    constructor
    · have started := mem_commands (sub.subset (List.mem_append_right _ List.mem_cons_self))
      exact ⟨_, started, rfl, args_assignment _ kind block⟩
    · intro command mem flag
      obtain ⟨block', -, places, rfl⟩ := flagged course mem flag
      rw [places.unique placed]
      exact ⟨rfl, args_assignment _ kind block⟩
  | planned checked made dry =>
    rename_i block
    constructor
    · have shown : (r.task account c |>.assignment kind block).render =
          r.tools.accountTool.display ++ String.join
            ([kind.assignFlag, range block, account.name].map (" " ++ ·)) := by
        rw [Command.render, args_assignment]
        rfl
      rw [shown]
      simp [String.join, String.append_assoc]
    · -- a dry run has no command of this flag at all
      intro command mem flag
      obtain ⟨-, wet, -⟩ := flagged course mem flag
      rw [dry] at wet
      cases wet

/-- Under the strict policy the reported blocks lie in the pool, one user id has one block,
and the blocks of two user ids share nothing and are in the order of the user ids. The
account tool is told exactly these blocks. -/
theorem strict_separate {r₁ r₂ : Run} {c₁ c₂ : Configuration} {kind : Kind} {a₁ a₂ : Account}
    {g₁ g₂ : Tools.Grant} (loaded₁ : r₁.configuration = .ok c₁)
    (loaded₂ : r₂.configuration = .ok c₂) (strict₁ : c₁.allowWrap = false)
    (strict₂ : c₂.allowWrap = false) (floor : c₁.uidMin = c₂.uidMin)
    (pool : c₁.pool kind = c₂.pool kind) (first : r₁.Reports a₁ kind g₁)
    (second : r₂.Reports a₂ kind g₂) :
    (c₁.pool kind).Holds g₁.block ∧ (c₂.pool kind).Holds g₂.block ∧
      (a₁.uid = a₂.uid → g₁.block = g₂.block) ∧
      (a₁.uid < a₂.uid →
        g₁.block.last < g₂.block.start ∧ Disjoint g₁.block.ids g₂.block.ids) ∧
      r₁.Tells a₁ kind g₁ ∧ r₂.Tells a₂ kind g₂ := by
  have policy₁ : c₁.policy = .strict := by rw [Configuration.policy, strict₁]; rfl
  have policy₂ : c₂.policy = .strict := by rw [Configuration.policy, strict₂]; rfl
  obtain ⟨-, start₁, count₁⟩ := first.places loaded₁
  obtain ⟨-, start₂, count₂⟩ := second.places loaded₂
  simp only [task, Task.ofSession, policy₁] at start₁ count₁
  simp only [task, Task.ofSession, policy₂] at start₂ count₂
  have holds₁ := Placement.holds_of_place start₁ count₁ (.inl rfl)
  have holds₂ := Placement.holds_of_place start₂ count₂ (.inl rfl)
  refine ⟨holds₁, holds₂, ?_, ?_, first.tells, second.tells⟩
  · intro same
    rw [floor, pool, same, start₂] at start₁
    exact Block.ext_start_count (Except.ok.inj start₁).symm (by rw [count₁, count₂, pool])
  · intro less
    rw [floor, pool] at start₁
    rw [pool] at count₁
    have ordered := Placement.strict_ordered less start₁ start₂
    rw [← count₁] at ordered
    refine ⟨Block.last_lt_of_le ordered, ?_⟩
    rw [Finset.disjoint_left]
    intro id mem₁ mem₂
    rw [Block.mem_ids] at mem₁ mem₂
    omega

/-- The blocks that the built-in settings have for the two users of the office. -/
def annBlock : Block := ⟨100000, 65536, by decide, by decide⟩

@[inherit_doc annBlock]
def bobBlock : Block := ⟨165536, 65536, by decide, by decide⟩

/-- One user is given a block, and the other one is shown the block next to it. -/
theorem strict_separate_office :
    (inOffice "ann" [.user] false).Reports ⟨"ann", 1000⟩ .user (.applied annBlock) ∧
      (inOffice "bob" [.group, .user] true).Reports ⟨"bob", 1001⟩ .user
        (.planned bobBlock "/usr/sbin/usermod --add-subuids 165536-231071 bob") ∧
      Disjoint annBlock.ids bobBlock.ids := by
  have first : (inOffice "ann" [.user] false).Reports ⟨"ann", 1000⟩ .user (.applied annBlock) :=
    ⟨[(.user, .granted (.applied annBlock))], by decide +kernel, List.mem_cons_self⟩
  have second : (inOffice "bob" [.group, .user] true).Reports ⟨"bob", 1001⟩ .user
      (.planned bobBlock "/usr/sbin/usermod --add-subuids 165536-231071 bob") :=
    ⟨[(.user, .granted (.planned bobBlock "/usr/sbin/usermod --add-subuids 165536-231071 bob")),
      (.group, .granted (.planned bobBlock "/usr/sbin/usermod --add-subgids 165536-231071 bob"))],
      by decide +kernel, List.mem_cons_self⟩
  have loaded (user : String) (kinds : List Kind) (dryRun : Bool) :
      (inOffice user kinds dryRun).configuration = .ok .default := rfl
  obtain ⟨-, -, -, apart, -⟩ :=
    strict_separate (loaded _ _ _) (loaded _ _ _) rfl rfl rfl rfl first second
  exact ⟨first, second, (apart (by decide)).2⟩

end Run

end SubordinateIds.Assignment
