import SubordinateIds.Assignment
import SubordinateIds.Catalogue
import SubordinateIds.CommandLine.Invocation

/-
  The program — from the words of a command line to what is printed

  Showing the version touches nothing. Showing the configuration loads it and
  starts no program. An assignment needs a kind and a user. What is to be printed
  is known before the first line of it is written, so a run that fails prints
  nothing; its reason goes to the error stream, after the log.

  Correspondence (program ↔ model):
    `run`                               ↔ `runWords`, and `perform` and `run` from the words on
    `selected_kinds`                    ↔ `kinds`
    `build_request`, `command_assign`   ↔ `assign`
    `command_dump_config`               ↔ `dump`
    `noop_lines`                        ↔ `outcomeLine?`
    `CliError`                          ↔ `Complaint`
    `write_stdout_line`, `stdout_error` ↔ `Printer.print`, `Complaint.notPrinted`
    `emit_error`                        ↔ `Finish.stderr`

  A complaint for `config.render_failed` is left out: it would need a configuration whose ten
  numbers and switches cannot be written down, and there is none.
-/

namespace SubordinateIds

/-- The version of the program. -/
def version : String := "0.1.0"

/-- What standard output does with what is written to it. -/
inductive Printer where
  | working
  | full
  deriving DecidableEq, Repr

namespace Printer

/-- What is said when there is no room for what is written. -/
def fullReason : String := "No space left on device (os error 28)"

/-- Prints lines: what comes out, or why the first line did not. -/
def print : Printer → List String → Except String String
  | .full, _ :: _ => .error fullReason
  | _, lines => .ok (String.join (lines.map (· ++ "\n")))

end Printer

/-- Why a run of the program fails. -/
inductive Complaint where
  | notPrinted (reason : String)
  | modeRequired
  | userRequired
  | dumpConflict
  | loading (fault : Loading.Fault)
  | assignment (fault : Assignment.Fault)
  deriving DecidableEq, Repr

/-- The wording of a complaint. -/
def Complaint.message : Complaint → String
  | .notPrinted reason => Catalogue.message "output.stdout_failed" [("error", reason)]
  | .modeRequired => Catalogue.message "args.mode_required" []
  | .userRequired => Catalogue.message "args.user_required" []
  | .dumpConflict => Catalogue.message "args.dump_conflict" []
  | .loading fault => Catalogue.message "config.load_failed" [("error", fault.message)]
  | .assignment fault => Catalogue.message "workflow.failed" [("error", fault.message)]

namespace Invocation

/-- The kinds that are asked for. -/
def kinds (inv : Invocation) : List Kind :=
  Kind.all.filter fun
    | .user => inv.has .subuid
    | .group => inv.has .subgid

/-- The line for one outcome of an assignment, if it has one. -/
def outcomeLine? : Kind × Assignment.Outcome → Option String
  | (_, .granted (.planned _ command)) =>
    some (Catalogue.message "noop.would_execute" [("command", command)])
  | _ => none

/-- Shows the configuration. -/
def dump (inv : Invocation) : Act Complaint (List String) := do
  if inv.user.isSome || inv.has .subuid || inv.has .subgid then throw .dumpConflict
  let c ← (Session.load .standard).adapt .loading
  let shown := c.render (inv.form.getD .text)
  return [String.ofList (Text.trimEnd shown.toList)]

/-- Makes an assignment. -/
def assign (inv : Invocation) : Act Complaint (List String) := do
  if inv.kinds.isEmpty then throw .modeRequired
  match inv.user with
  | none => throw .userRequired
  | some user =>
    let request := ⟨user, inv.kinds, inv.has .noop⟩
    let report ← (Assignment.run .standard .standard request).adapt .assignment
    return report.outcomes.filterMap outcomeLine?

/-- Does what is asked for, and gives the lines to be printed. -/
def perform (inv : Invocation) : Act Complaint (List String) := do
  if inv.has .version then return [Catalogue.message "main.version" [("version", version)]]
  if inv.has .dumpConfig then inv.dump else inv.assign

end Invocation

/-- What a run of the program leaves behind. -/
structure Finish where
  exitCode : UInt8
  stdout : String
  complaint : Option Complaint
  session : Session

namespace Finish

/-- What the run wrote to the error stream: the log, each event with the time it
is given, and the complaint. -/
def stderr (f : Finish) (format : LogFormat) (time : Nat) : String :=
  format.lines (f.session.journal.events.toList.map (·, time)) ++
    match f.complaint with
    | none => ""
    | some complaint => complaint.message ++ "\n"

end Finish

namespace Invocation

/-- Does what is asked for on a machine, and prints. -/
def run (inv : Invocation) (machine : Machine) (printer : Printer) : Finish :=
  match inv.perform.run (.start machine (inv.has .debug)) with
  | (.error complaint, session) => ⟨1, "", some complaint, session⟩
  | (.ok lines, session) =>
    match printer.print lines with
    | .error reason => ⟨1, "", some (.notPrinted reason), session⟩
    | .ok printed => ⟨0, printed, none, session⟩

/-- Reads the words of a command line and does what they ask for. The machine is looked at
last, and only where it may be needed: neither for words that ask for nothing that can be
done nor for the version. -/
def runWords {m : Type → Type} [Monad m] (words : List Octets) (observe : m Machine)
    (printer : Printer) : m (Except Stop (Invocation × Finish)) :=
  match read words with
  | .error stop => return .error stop
  | .ok inv => do
    if inv.has .version then return .ok (inv, inv.run .empty printer)
    return .ok (inv, inv.run (← observe) printer)

/-- The form of log lines. -/
def logFormatOrText (inv : Invocation) : LogFormat := inv.logFormat.getD .text

end Invocation

end SubordinateIds
