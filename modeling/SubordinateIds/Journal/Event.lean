/-
  Events — what is reported while the program works

  An event has a level, a fixed label for its cause, and a message. Events of
  level debug are a trace; a warning or an error is a problem. The journal keeps
  the events that its filter lets through, oldest first.

  Correspondence (program ↔ model):
    `DiagnosticLevel`                         ↔ `Level`
    `DiagnosticEvent`                         ↔ `Event`
    `Diagnostics::debug`, `::warn`, `::error` ↔ `Event.debug`, `.warning`, `.error`
    `Diagnostics::new`, `::disabled`          ↔ `ofVerbose` and `empty`
    `Diagnostics::emit`                       ↔ `record`
    `Diagnostics::debug_enabled`              ↔ `verbose`
    `MemoryDiagnosticSink`                    ↔ `Journal`
    `MemoryDiagnosticSink::contains`          ↔ `mentions`

  An event of the program also has the time at which it was made; it enters where lines are
  written (`LogFormat.lines`).
-/

namespace SubordinateIds

/-- How serious an event is. -/
inductive Level where
  | debug
  | warning
  | error
  deriving DecidableEq, Repr

/-- The name of a level. -/
def Level.name : Level → String
  | .debug => "debug"
  | .warning => "warning"
  | .error => "error"

/-- One report. -/
structure Event where
  level : Level
  label : String
  message : String
  deriving DecidableEq, Repr

namespace Event

/-- A step of the trace. -/
def debug (label message : String) : Event := ⟨.debug, label, message⟩

/-- A problem that leaves the work going on. -/
def warning (label message : String) : Event := ⟨.warning, label, message⟩

/-- A failure of what was being done. -/
def error (label message : String) : Event := ⟨.error, label, message⟩

end Event

/-- Which events a journal keeps. -/
inductive Journal.Filter where
  | nothing
  | problems
  | everything
  deriving DecidableEq, Repr

/-- The events kept so far, and which ones are kept. -/
structure Journal where
  filter : Journal.Filter
  events : Array Event
  deriving DecidableEq, Repr

namespace Journal

/-- Whether the filter lets events of a level through. -/
def Filter.admits : Filter → Level → Bool
  | .nothing, _ => false
  | .problems, level => level != .debug
  | .everything, _ => true

/-- An empty journal. -/
def empty (filter : Filter) : Journal := ⟨filter, #[]⟩

/-- An empty journal that keeps the trace too if asked to, and problems always. -/
def ofVerbose (verbose : Bool) : Journal := empty (if verbose then .everything else .problems)

/-- Whether the trace is kept. -/
def verbose (j : Journal) : Bool := j.filter == .everything

/-- Reports one event. -/
def record (j : Journal) (e : Event) : Journal :=
  if j.filter.admits e.level then { j with events := j.events.push e } else j

/-- Reports events in order. -/
def recordAll (j : Journal) (es : List Event) : Journal := es.foldl record j

/-- Whether an event with the label was kept. -/
def mentions (j : Journal) (label : String) : Bool := j.events.any (·.label == label)

@[simp] theorem filter_record (j : Journal) (e : Event) : (j.record e).filter = j.filter := by
  unfold record; split <;> rfl

@[simp] theorem filter_recordAll (j : Journal) (es : List Event) :
    (j.recordAll es).filter = j.filter := by
  induction es generalizing j with
  | nil => rfl
  | cons e es ih =>
    have h : j.recordAll (e :: es) = (j.record e).recordAll es := rfl
    rw [h, ih, filter_record]

theorem toList_record (j : Journal) (e : Event) :
    (j.record e).events.toList =
      j.events.toList ++ [e].filter (fun e => j.filter.admits e.level) := by
  unfold record
  split <;> simp_all

theorem toList_recordAll (j : Journal) (es : List Event) :
    (j.recordAll es).events.toList =
      j.events.toList ++ es.filter (fun e => j.filter.admits e.level) := by
  induction es generalizing j with
  | nil => simp [recordAll]
  | cons e es ih =>
    have h : j.recordAll (e :: es) = (j.record e).recordAll es := rfl
    rw [h, ih, toList_record, filter_record, List.append_assoc, ← List.filter_append]
    rfl

end Journal

end SubordinateIds
