import SubordinateIds.AccountFile
import SubordinateIds.CommandLine.Program

/-
  The command — reads the machine it runs on, and runs the program on it

  What is read is the account file, the variables that are handed on to the tools,
  and which of the places of the configuration are there. Neither the owner of a
  file nor another program is within reach here. So a place that is there counts as
  a file of unknown type, and the tools as programs that cannot be started: the
  program refuses both by its own rules.

  Correspondence (program ↔ model):
    `main`        ↔ `main`
    `OsSystemOps` ↔ `observeMachine`
-/

namespace SubordinateIds

/-- What is said when a command line is not understood, and when help is asked
for. -/
def usage : String :=
  "Usage: static-subid [OPTIONS] [USER]\n\n" ++
  "Options:\n" ++
  "      --version              Print version information and exit\n" ++
  "      --subuid               Assign a subordinate UID range\n" ++
  "      --subgid               Assign a subordinate GID range\n" ++
  "  -d, --debug                Emit debug diagnostics to stderr\n" ++
  "  -n, --noop                 Print the commands that would run without executing them\n" ++
  "      --log-format <FORMAT>  Diagnostic line format: text or json\n" ++
  "      --dump-config          Print the merged configuration and exit\n" ++
  "      --format <FORMAT>      Output format for --dump-config: text, json or toml\n" ++
  "  -h, --help                 Print help\n"

/-- The kind of a failed request. -/
def SystemError.ofIO : IO.Error → SystemError
  | .noFileOrDirectory _ _ _ => .notFound
  | .permissionDenied _ _ _ => .permissionDenied
  | _ => .other

/-- What can be seen of a place: that nothing is there, or that something is. -/
def observe (place : String) : IO (Path × Except SystemError Machine.Entry) := do
  try
    let _ ← IO.FS.Handle.mk place .read
    return (.ofString place, .ok (.file (.of .unknown 0 0) []))
  catch e => return (.ofString place, .error (.ofIO e))

/-- The accounts of the machine. -/
def observeAccounts : IO (List Account) := do
  try return AccountFile.ofLines (← IO.FS.lines "/etc/passwd").toList
  catch _ => return []

/-- A variable of the caller, if it is set. -/
def observeVariable (key : String) : IO (List (String × Octets)) := do
  match ← IO.getEnv key with
  | some value => return [(key, Utf8.encode value.toList)]
  | none => return []

/-- The machine as far as it can be seen. -/
def observeMachine : IO Machine := do
  let places := ["/etc/login.defs", "/etc/static-subid.conf", "/etc/static-subid.conf.d"]
  let tools := [Tools.standard.queryTool, Tools.standard.accountTool]
  return { Machine.empty with
    entries := .ofList (← places.mapM observe)
    accounts := ← observeAccounts
    environment := (← Tools.handedOn.mapM observeVariable).flatten
    startErrors := .ofList (tools.map (·, .unsupported)) }

end SubordinateIds

open SubordinateIds in
/-- Runs the program on this machine. -/
def main (args : List String) : IO UInt32 := do
  let words := args.map fun word => Utf8.encode word.toList
  match ← Invocation.runWords words observeMachine .working with
  | .error .help =>
    IO.print usage
    return 0
  | .error .misuse =>
    IO.eprint usage
    return 1
  | .ok (inv, finish) =>
    IO.eprint (finish.stderr inv.logFormatOrText (← IO.monoMsNow))
    IO.print finish.stdout
    return finish.exitCode.toUInt32
