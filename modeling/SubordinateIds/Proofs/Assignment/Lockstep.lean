import SubordinateIds.Assignment
import SubordinateIds.Proofs.Pairs

/-
  Lockstep — two runs of one request

  Two runs are given the same user, the same kinds and the same tools and sources, on
  sessions that are related in some way. `Lockstep` lists what has to be known of the steps
  that ask the machine or change it: each of them, taken in both sessions, keeps the
  sessions related. Everything between these steps is the same in both runs, so the
  runs as a whole agree (`Lockstep.run`), whatever the relation is.

  The two runs may differ in whether they are dry. Then their grants are not equal, and
  `G` says how they belong together.
-/

namespace SubordinateIds

/-! ## The commands of a run -/

namespace Tools

/-- The query for a kind, with what it prints shown or not. -/
def query (tools : Tools) (m : Machine) (name : String) (kind : Kind) (shown : Bool) : Command :=
  command m tools.queryTool (queryArgs name kind) (if shown then .inherit else .null)

/-- The command that adds a block of a kind. -/
def assignment (tools : Tools) (m : Machine) (name : String) (kind : Kind) (block : Block) :
    Command :=
  command m tools.accountTool (assignArgs name kind block) .inherit

end Tools

/-! ## The steps of a run -/

namespace Paired

variable {R : Session → Session → Prop} {tools : Tools} {sources : Sources}

theorem resolve (told : ∀ events s t, R s t → R (s.told events) (t.told events))
    (finds : ∀ s t, R s t → Identity.find s.machine = Identity.find t.machine)
    (argument : String) :
    Paired R Eq (Identity.resolve argument) (Identity.resolve argument) := by
  unfold Identity.resolve
  refine .bind (.machineNow Identity.find finds) fun m m' same => ?_
  rw [same]
  refine .bind (.settle (.refl _)) fun found found' same => ?_
  subst same
  exact .bind (.report (told _)) fun _ _ _ => .pure rfl

theorem load (loads : ∀ s t, R s t → Loading.run s.machine sources = Loading.run t.machine sources)
    (loaded : ∀ s t, R s t → R (s.loaded sources) (t.loaded sources)) :
    Paired R Eq (Session.load sources) (Session.load sources) := by
  intro s t related
  rw [Act.run_load, Act.run_load, loads s t related]
  exact ⟨.refl _, loaded s t related⟩

/-- Two commands of one program that end in the same way on both machines, and leave the
sessions related. -/
theorem execute {c d : Command} (program : c.program = d.program)
    (ends : ∀ s t, R s t → (s.machine.run c.program).1 = (t.machine.run c.program).1)
    (started : ∀ s t, R s t → R (s.started c) (t.started d)) :
    Paired R Eq (Tools.execute c) (Tools.execute d) := by
  unfold Tools.execute
  rw [← program]
  refine .adapt ?_ _
  intro s t related
  rw [Act.run_execute, Act.run_execute, ← program, ends s t related]
  exact ⟨.refl _, started s t related⟩

theorem command_eq {m m' : Machine} (same : Tools.environment m = Tools.environment m')
    (program : Path) (args : List String) (output : Stream) :
    Tools.command m program args output = Tools.command m' program args output := by
  rw [Tools.command, Tools.command, same]

/-- The two queries are one, but for what the sessions do with its output. -/
theorem present {B : Bool → Bool → Prop} {name : String} {kind : Kind}
    (told : ∀ events s t, R s t → R (s.told events) (t.told events))
    (verbose : ∀ s t, R s t → B s.journal.verbose t.journal.verbose)
    (environment : ∀ s t, R s t → Tools.environment s.machine = Tools.environment t.machine)
    (ends : ∀ s t, R s t →
      (s.machine.run tools.queryTool).1 = (t.machine.run tools.queryTool).1)
    (started : ∀ m shown shown', B shown shown' → ∀ s t, R s t →
      R (s.started (tools.query m name kind shown)) (t.started (tools.query m name kind shown'))) :
    Paired R Eq (tools.present name kind) (tools.present name kind) := by
  unfold Tools.present
  refine .bind (.settle (.refl _)) fun _ _ _ => ?_
  refine .bind (.isVerbose verbose) fun shown shown' shows => ?_
  refine .bind (.machineNow Tools.environment environment) fun m m' same => ?_
  simp only [command_eq same]
  refine .bind (.report (told _)) fun _ _ _ => ?_
  refine .bind (.execute rfl ends (started m' shown shown' shows)) fun exit exit' same => ?_
  subst same
  split
  · exact .pure rfl
  · exact .pure rfl
  · exact .throw _

theorem assign {name : String} {kind : Kind}
    (told : ∀ events s t, R s t → R (s.told events) (t.told events))
    (environment : ∀ s t, R s t → Tools.environment s.machine = Tools.environment t.machine)
    (ends : ∀ s t, R s t →
      (s.machine.run tools.accountTool).1 = (t.machine.run tools.accountTool).1)
    (started : ∀ m block s t, R s t →
      R (s.started (tools.assignment m name kind block))
        (t.started (tools.assignment m name kind block)))
    (start count : UInt32) (dryRun : Bool) :
    Paired R Eq (tools.assign name kind start count dryRun)
      (tools.assign name kind start count dryRun) := by
  unfold Tools.assign
  refine .bind (.settle (.refl _)) fun _ _ _ => ?_
  refine .bind (.settle (.refl _)) fun block block' same => ?_
  subst same
  refine .bind (.machineNow Tools.environment environment) fun m m' same => ?_
  simp only [command_eq same]
  cases dryRun with
  | true => exact .pure rfl
  | false =>
    refine .bind (.report (told _)) fun _ _ _ => ?_
    refine .bind (.execute rfl ends (started m' block)) fun exit exit' same => ?_
    subst same
    split
    · exact .pure rfl
    · exact .throw _

end Paired

/-! ## Whole runs -/

namespace Assignment

/-- What became of a kind in two runs belongs together: it was passed over in both, or
granted in both. -/
inductive Outcome.Together (G : Tools.Grant → Tools.Grant → Prop) : Outcome → Outcome → Prop where
  | passedOver : Together G .alreadyAssigned .alreadyAssigned
  | granted {g g' : Tools.Grant} (grants : G g g') : Together G (.granted g) (.granted g')

/-- Two reports belong together: they are about one account and about the same kinds in the
same order, and what became of each kind belongs together. -/
structure Report.Together (G : Account → Kind → Tools.Grant → Tools.Grant → Prop)
    (a b : Report) : Prop where
  account : a.account = b.account
  outcomes : List.Forall₂ (fun x y => x.1 = y.1 ∧ x.2.Together (G a.account x.1) y.2)
    a.outcomes b.outcomes

theorem Outcome.Together.eq {a b : Outcome} (h : a.Together Eq b) : a = b := by
  cases h with
  | passedOver => rfl
  | granted grants => rw [grants]

theorem Report.Together.eq {a b : Report} (h : a.Together (fun _ _ => Eq) b) : a = b := by
  obtain ⟨account, outcomes⟩ := a
  obtain ⟨account', outcomes'⟩ := b
  obtain ⟨rfl, both⟩ := h
  have same : outcomes = outcomes' := by
    rw [← List.forall₂_eq_eq_eq]
    refine both.imp ?_
    intro x y pair
    exact Prod.ext pair.1 pair.2.eq
  rw [same]

/-- The steps of two runs keep their sessions related and come to results that agree. -/
structure Lockstep (R : Session → Session → Prop)
    (G : Account → Kind → Tools.Grant → Tools.Grant → Prop) (tools : Tools) (sources : Sources)
    (dry dry' : Bool) : Prop where
  told : ∀ events s t, R s t → R (s.told events) (t.told events)
  resolve : ∀ argument, Paired R Eq (Identity.resolve argument) (Identity.resolve argument)
  load : Paired R Eq (Session.load sources) (Session.load sources)
  present : ∀ name kind, Paired R Eq (tools.present name kind) (tools.present name kind)
  assign : ∀ (account : Account) kind start count,
    Paired R (G account kind) (tools.assign account.name kind start count dry)
      (tools.assign account.name kind start count dry')

namespace Lockstep

variable {R : Session → Session → Prop} {G : Account → Kind → Tools.Grant → Tools.Grant → Prop}
  {tools : Tools} {sources : Sources} {dry dry' : Bool}

theorem isServed (h : Lockstep R G tools sources dry dry') (account : Account) (c : Configuration)
    (kind : Kind) :
    Paired R Eq (isServed tools account c kind) (isServed tools account c kind) := by
  unfold Assignment.isServed
  cases c.skipIfExists with
  | false => exact .pure rfl
  | true =>
    refine .bind ((h.present account.name kind).adapt _) fun presence presence' same => ?_
    subst same
    cases presence with
    | absent => exact .pure rfl
    | present => exact .bind (.report (h.told _)) fun _ _ _ => .pure rfl

theorem serve (h : Lockstep R G tools sources dry dry') (account : Account) (c : Configuration)
    (kind : Kind) :
    Paired R (Outcome.Together (G account kind)) (serve tools account c dry kind)
      (serve tools account c dry' kind) := by
  unfold Assignment.serve
  refine .bind (.report (h.told _)) fun _ _ _ => ?_
  refine .bind (.settle (.refl _)) fun _ _ _ => ?_
  refine .bind (h.isServed account c kind) fun served served' same => ?_
  subst same
  cases served with
  | true => exact .pure .passedOver
  | false =>
    refine .bind (.settle (.refl _)) fun start start' same => ?_
    subst same
    refine .bind (.report (h.told _)) fun _ _ _ => ?_
    refine .bind ((h.assign account kind start _).adapt _) fun grant grant' grants => ?_
    exact .pure (.granted grants)

/-- Two runs whose steps are in lockstep come to reports that belong together, or fail alike. -/
theorem run (h : Lockstep R G tools sources dry dry') (user : String) (kinds : List Kind) :
    Paired R (Report.Together G) (Assignment.run tools sources ⟨user, kinds, dry⟩)
      (Assignment.run tools sources ⟨user, kinds, dry'⟩) := by
  unfold Assignment.run
  refine .bind ((h.resolve user).adapt _) fun account account' same => ?_
  subst same
  refine .bind (h.load.adapt _) fun c c' same => ?_
  subst same
  refine .bind (.settle (.refl _)) fun _ _ _ => ?_
  have kind (kind : Kind) : Paired R
      (fun x y => x.1 = y.1 ∧ x.2.Together (G account x.1) y.2)
      (do return (kind, ← Assignment.serve tools account c dry kind))
      (do return (kind, ← Assignment.serve tools account c dry' kind)) :=
    .bind (h.serve account c kind) fun _ _ outcomes => .pure ⟨rfl, outcomes⟩
  refine .bind (.mapM kind _) fun _ _ outcomes => ?_
  exact .pure ⟨rfl, outcomes⟩

end Lockstep

end Assignment

end SubordinateIds
