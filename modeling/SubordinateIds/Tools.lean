import SubordinateIds.Block
import SubordinateIds.LoginName
import SubordinateIds.Session

/-
  Tools — the two programs that know and change who owns which ids

  The query tool tells whether a user has subordinate ids of a kind, the account
  tool adds a block. Each is started by its full path, with nothing to read, with
  five variables of the caller's environment at most, and with a login name that
  was checked right before. A block's end is worked out here once more, apart from
  its placement.

  Correspondence (program ↔ model):
    `CommandPaths`               ↔ `Tools`
    `InvokeError`                ↔ `Fault`
    `SubidPresence`              ↔ `Presence`
    `AssignOutcome`              ↔ `Grant`
    `ENV_ALLOW_LIST`             ↔ `handedOn`
    `build_safe_environment`     ↔ `environment`
    `SubidInvoker::command`      ↔ `command`
    `SubidInvoker::spawn`        ↔ `execute`
    `outcome_error`              ↔ `Fault.ofExit`
    `SubidInvoker::check_exists` ↔ `present`
    `SubidInvoker::assign_range` ↔ `assign`

  `InvokeError::Environment` is left out: it is for five variables that there is no memory for,
  and memory does not run out here.
-/

namespace SubordinateIds

/-- Where the tools are. -/
structure Tools where
  queryTool : Path
  accountTool : Path
  deriving DecidableEq, Repr

/-- The places where a system keeps the tools. -/
def Tools.standard : Tools where
  queryTool := Path.ofString "/usr/bin/getsubids"
  accountTool := Path.ofString "/usr/sbin/usermod"

namespace Tools

/-- What a run of a tool can come to grief over. -/
inductive Fault where
  | badName (fault : LoginName.Fault)
  | badBlock (fault : Block.Fault)
  | notStarted (program : Path) (error : SystemError)
  | exitStatus (program : Path) (code : Int)
  | signaled (program : Path) (signal : Int)
  | abnormal (program : Path)
  deriving DecidableEq, Repr

/-- The wording of a fault. -/
def Fault.message : Fault → String
  | .badName fault => s!"invalid username: {fault.message}"
  | .badBlock fault => s!"invalid range: {fault.message}"
  | .notStarted program error => s!"failed to execute {program.display}: {error}"
  | .exitStatus program code => s!"{program.display} exited with status {code}"
  | .signaled program signal => s!"{program.display} terminated by signal {signal}"
  | .abnormal program => s!"{program.display} terminated abnormally"

/-- The fault of a program that did not end as it should have. -/
def Fault.ofExit (program : Path) : Exit → Fault
  | .exited code => .exitStatus program code
  | .signaled signal => .signaled program signal
  | .unknown => .abnormal program

/-- The variables that are handed on to the tools. -/
def handedOn : List String := ["LANG", "LC_ALL", "LC_MESSAGES", "LC_CTYPE", "TZ"]

/-- The environment of the tools: the variables that are handed on and that the
caller has, with the caller's values. -/
def environment (m : Machine) : List (String × Octets) :=
  handedOn.filterMap fun key => (m.envValue? key).map (key, ·)

/-- The name that a program is told. -/
def toldName (program : Path) : String :=
  match program.fileName? with
  | some name => Utf8.lossy name
  | none => program.display

/-- A run of a tool. -/
def command (m : Machine) (program : Path) (args : List String) (output : Stream) : Command where
  program
  arg0 := toldName program
  args
  env := environment m
  stdin := .null
  stdout := output
  stderr := output

/-- Whether a user has subordinate ids of a kind. -/
inductive Presence where
  | present
  | absent
  deriving DecidableEq, Repr

/-- A block that was given to a user, or the command that would have given it. -/
inductive Grant where
  | applied (block : Block)
  | planned (block : Block) (command : String)
  deriving DecidableEq, Repr

/-- Starts a command and waits for its end. -/
def execute (c : Command) : Act Fault Exit :=
  (Session.execute c).adapt (.notStarted c.program)

/-- The arguments of a query. -/
def queryArgs (name : String) (kind : Kind) : List String := kind.queryFlag?.toList ++ [name]

/-- The arguments that add a block. -/
def assignArgs (name : String) (kind : Kind) (block : Block) : List String :=
  [kind.assignFlag, block.render, name]

/-- Asks whether a user has subordinate ids of a kind. What the tool prints is
shown only with the trace. -/
def present (tools : Tools) (name : String) (kind : Kind) : Act Fault Presence := do
  Session.settle ((LoginName.check name).mapError .badName)
  let output := if ← Session.isVerbose then Stream.inherit else .null
  let c := command (← Session.machineNow) tools.queryTool (queryArgs name kind) output
  Session.report [.debug "subid_query" s!"checking {kind} for {name}: {c.render}"]
  match ← execute c with
  | .exited 0 => return .present
  | .exited 1 => return .absent
  | exit => throw (.ofExit c.program exit)

/-- Gives a user the ids from `start` on. In a dry run nothing is started. -/
def assign (tools : Tools) (name : String) (kind : Kind) (start count : UInt32) (dryRun : Bool) :
    Act Fault Grant := do
  Session.settle ((LoginName.check name).mapError .badName)
  let block ← Session.settle ((Block.of start count).mapError .badBlock)
  let c := command (← Session.machineNow) tools.accountTool (assignArgs name kind block) .inherit
  if dryRun then return .planned block c.render
  Session.report [.debug "subid_assign" s!"executing: {c.render}"]
  match ← execute c with
  | .exited 0 => return .applied block
  | exit => throw (.ofExit c.program exit)

end Tools

end SubordinateIds
