import SubordinateIds.Journal.Event
import SubordinateIds.Text.JsonString

/-
  Log lines — how events are written to the error stream

  A line is either text, with the program's name, the level and the message, or
  a JSON object that also has the label and the time in milliseconds. The keys
  of the object stand in a fixed order and nothing stands between its parts.

  Correspondence (program ↔ model):
    `LogFormat`                    ↔ `LogFormat`
    `StderrDiagnosticSink::record` ↔ `line`
-/

namespace SubordinateIds

/-- The name in front of every text line. -/
def programName : String := "static-subid"

/-- How log lines are written. -/
inductive LogFormat where
  | text
  | json
  deriving DecidableEq, Repr

/-- The line of an event that happened at a time, its line feed included. -/
def LogFormat.line (format : LogFormat) (time : Nat) (e : Event) : String :=
  match format with
  | .text => s!"{programName}: {e.level.name}: {e.message}\n"
  | .json =>
    "\x7b\"level\":" ++ JsonString.encode e.level.name ++
      ",\"event\":" ++ JsonString.encode e.label ++
      ",\"message\":" ++ JsonString.encode e.message ++
      ",\"timestamp_ms\":" ++ toString time ++ "\x7d\n"

/-- The lines of events, each with its time. -/
def LogFormat.lines (format : LogFormat) (events : List (Event × Nat)) : String :=
  String.join (events.map fun e => format.line e.2 e.1)

end SubordinateIds
