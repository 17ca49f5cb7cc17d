import SubordinateIds.Configuration.Loading

/-
  Sessions — one run of the program on a machine, and the record of it

  A session holds the machine, the journal, and the paths opened and the commands
  started so far, oldest first. An act works on a session and either gives a
  value or fails; what it did to the session stays in both cases. The journal
  and the two lists only ever grow.

  Correspondence (program ↔ model):
    `SubidInvoker`                    ↔ `Session`
    `SubidInvoker::ops`               ↔ `machineNow`
    `Diagnostics`                     ↔ `report` and `isVerbose`
    `InMemorySystemOps::commands`     ↔ `commands`
    `InMemorySystemOps::opened_paths` ↔ `opened`
    `SubidConfig::load`               ↔ `load`
-/

namespace SubordinateIds

/-- A run of the program so far. -/
structure Session where
  machine : Machine
  journal : Journal
  opened : Array Path
  commands : Array Command

/-- Work on a session that may fail. -/
abbrev Act (ε α : Type) := ExceptT ε (StateM Session) α

namespace Session

/-- The start of a run. -/
def start (machine : Machine) (verbose : Bool) : Session where
  machine
  journal := .ofVerbose verbose
  opened := #[]
  commands := #[]

variable {ε : Type}

/-- The machine as it is now. -/
def machineNow : Act ε Machine := do return (← get).machine

/-- Whether the trace is kept. -/
def isVerbose : Act ε Bool := do return (← get).journal.verbose

/-- Reports events. -/
def report (events : List Event) : Act ε Unit :=
  modify fun s => { s with journal := s.journal.recordAll events }

/-- Gives a value that is already known, or fails as it is already known. -/
def settle {α : Type} (r : Except ε α) : Act ε α := ExceptT.mk (pure r)

/-- Opens a file, and notes its path whether that succeeds or not. -/
def openFile (p : Path) : Act SystemError OpenFile := do
  modify fun s => { s with opened := s.opened.push p }
  settle ((← machineNow).openFile p)

/-- Starts a command and waits for its end; notes it whether that succeeds or
not. -/
def execute (c : Command) : Act SystemError Exit := do
  let (outcome, machine) := (← machineNow).run c.program
  modify fun s => { s with machine, commands := s.commands.push c }
  settle outcome

/-- Loads the configuration. -/
def load (sources : Sources) : Act Loading.Fault Configuration := do
  let loading := Loading.run (← machineNow) sources
  modify fun s => { s with opened := s.opened ++ loading.opened.toArray }
  report loading.events
  settle loading.result

end Session

end SubordinateIds
