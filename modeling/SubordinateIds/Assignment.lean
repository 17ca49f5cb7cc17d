import SubordinateIds.Identity
import SubordinateIds.Tools

/-
  Assignment — giving a user subordinate ids

  The user is resolved, the configuration is loaded, and the user id must lie in
  the window. Then each kind that was asked for is served, users before groups:
  the user id must lie outside the kind's pool, a user who has ids of the kind
  already is passed over if the configuration says so, and otherwise the block is
  placed and given. The first step that fails ends the run.

  Correspondence (program ↔ model):
    `AssignmentRequest` ↔ `Request`
    `ModeOutcome`       ↔ `Outcome`
    `AssignmentReport`  ↔ `Report`
    `WorkflowError`     ↔ `Fault`
    `run_assignment`    ↔ `run`
    `assign_subids`     ↔ `serveAll`
    `process_mode`      ↔ `serve`, with the question that comes first as `isServed`
-/

namespace SubordinateIds.Assignment

/-- What is asked for. -/
structure Request where
  user : String
  kinds : List Kind
  dryRun : Bool
  deriving DecidableEq, Repr

/-- What became of one kind. -/
inductive Outcome where
  | alreadyAssigned
  | granted (grant : Tools.Grant)
  deriving DecidableEq, Repr

/-- What became of a whole request. -/
structure Report where
  account : Account
  outcomes : List (Kind × Outcome)
  deriving DecidableEq, Repr

/-- The step that failed, and why. -/
inductive Fault where
  | identity (user : String) (fault : Identity.Fault)
  | loading (fault : Loading.Fault)
  | window (fault : Configuration.OutsideWindow)
  | overlap (fault : Pool.Overlap)
  | presence (kind : Kind) (name : String) (fault : Tools.Fault)
  | placement (kind : Kind) (name : String) (fault : Placement.Fault)
  | grant (kind : Kind) (name : String) (fault : Tools.Fault)
  deriving DecidableEq, Repr

/-- The wording of a fault. -/
def Fault.message : Fault → String
  | .identity user fault => s!"cannot resolve user {user}: {fault.message}"
  | .loading fault => fault.message
  | .window fault => fault.message
  | .overlap fault => fault.message
  | .presence kind name fault =>
    s!"could not check existing {kind} ranges for {name}: {fault.message}"
  | .placement kind name fault => s!"cannot allocate {kind} range for {name}: {fault.message}"
  | .grant kind name fault => s!"failed to assign {kind} range for {name}: {fault.message}"

/-- Whether the account is to be passed over, because it has ids of the kind
already. -/
def isServed (tools : Tools) (account : Account) (c : Configuration) (kind : Kind) :
    Act Fault Bool := do
  if !c.skipIfExists then return false
  match ← (tools.present account.name kind).adapt (.presence kind account.name) with
  | .absent => return false
  | .present =>
    Session.report [.debug "subid_skipped" s!"{account.name} already has {kind} ranges, skipping"]
    return true

/-- Serves one kind. -/
def serve (tools : Tools) (account : Account) (c : Configuration) (dryRun : Bool) (kind : Kind) :
    Act Fault Outcome := do
  Session.report [.debug "subid_mode" s!"processing mode: {kind}"]
  let pool := c.pool kind
  Session.settle ((pool.checkApart kind account.uid).mapError .overlap)
  if ← isServed tools account c kind then return .alreadyAssigned
  let start ← Session.settle
    ((Placement.place c.policy c.uidMin pool account.uid).mapError (.placement kind account.name))
  Session.report [.debug "subid_allocated"
    s!"calculated {kind} range for uid {account.uid}: {start}:{pool.count}"]
  let grant ← (tools.assign account.name kind start pool.count dryRun).adapt
    (.grant kind account.name)
  return .granted grant

/-- Serves the kinds that are asked for, each once. -/
def serveAll (tools : Tools) (account : Account) (c : Configuration) (kinds : List Kind)
    (dryRun : Bool) : Act Fault (List (Kind × Outcome)) :=
  (Kind.all.filter (kinds.contains ·)).mapM fun kind => do
    return (kind, ← serve tools account c dryRun kind)

/-- Serves a request. -/
def run (tools : Tools) (sources : Sources) (request : Request) : Act Fault Report := do
  let account ← (Identity.resolve request.user).adapt (.identity request.user)
  let c ← (Session.load sources).adapt .loading
  Session.settle ((c.checkWindow account.uid).mapError .window)
  let outcomes ← serveAll tools account c request.kinds request.dryRun
  return ⟨account, outcomes⟩

end SubordinateIds.Assignment
