import SubordinateIds.Journal.Log
import SubordinateIds.Proofs.Configuration.Listing
import SubordinateIds.Proofs.Configuration.Wording
import SubordinateIds.Proofs.Text.Lines

/-
  Text lines — when a log has one line for each event

  The text form writes a message as it is. So a log can be cut into its events again exactly
  if no message holds a line feed (`lines_text_iff`). What is told of a loading holds one
  only if it is in a path or in the name of an entry, which may hold any octet but a slash.
  Whoever can choose such a name can choose a line of the log: `load_text_log_forged` is a
  log with a line that reads like an event and is none.
-/

namespace SubordinateIds

namespace LogFormat

variable {e : Event} {stamped : List (Event × Nat)}

/-- The line of an event in the text form. -/
def textRow (e : Event) : String := "static-subid: " ++ e.level.name ++ ": " ++ e.message

theorem line_text (time : Nat) (e : Event) : LogFormat.text.line time e = textRow e ++ "\n" := rfl

theorem newline_mem_textRow : '\n' ∈ (textRow e).toList ↔ '\n' ∈ e.message.toList := by
  have level : '\n' ∉ e.level.name.toList := by cases e.level <;> decide
  unfold textRow
  simp [level]

theorem lines_text_iff :
    Text.Lines (LogFormat.text.lines stamped) (stamped.map fun e => textRow e.1) ↔
      ∀ e ∈ stamped, '\n' ∉ e.1.message.toList := by
  have joined : LogFormat.text.lines stamped =
      String.join ((stamped.map fun e => textRow e.1).map (· ++ "\n")) := by
    rw [lines, List.map_map]
    exact congrArg String.join (List.map_congr_left fun e _ => line_text e.2 e.1)
  simp only [Text.Lines, joined, true_and, List.forall_mem_map, newline_mem_textRow]

end LogFormat

namespace Session

theorem mem_events_of_mem_load {m : Machine} {verbose : Bool} {sources : Sources} {e : Event}
    (mem : e ∈ ((Session.load sources).run (.start m verbose)).2.journal.events.toList) :
    e ∈ (Loading.run m sources).events := by
  rw [Act.run_load, loaded, Journal.toList_recordAll] at mem
  have started : (Session.start m verbose).journal.events.toList = [] := rfl
  rw [started, List.nil_append] at mem
  exact (List.mem_filter.mp mem).1

/-- The log of a loading in the text form has one line for each event that is recorded, the
name of the program, the level and the message, exactly if no message holds a line feed. And
none does if no path and no name in the directory holds one, whatever is in the files. -/
theorem load_text_log (m : Machine) (verbose : Bool) (sources : Sources)
    (stamped : List (Event × Nat))
    (told : stamped.map Prod.fst =
      ((Session.load sources).run (.start m verbose)).2.journal.events.toList) :
    let whole := Text.Lines (LogFormat.text.lines stamped)
      (stamped.map fun e => "static-subid: " ++ e.1.level.name ++ ": " ++ e.1.message)
    (whole ↔ ∀ e ∈ stamped, '\n' ∉ e.1.message.toList) ∧
      ((∀ p ∈ sources.files, 0x0a ∉ p.octets) → 0x0a ∉ sources.directory.octets →
        (∀ names, m.list sources.directory = .ok names → ∀ name ∈ names, 0x0a ∉ name) → whole) := by
  refine ⟨LogFormat.lines_text_iff, ?_⟩
  intro files directory names
  apply LogFormat.lines_text_iff.mpr
  intro e mem
  have recorded : e.1 ∈ stamped.map Prod.fst := List.mem_map_of_mem mem
  rw [told] at recorded
  exact Loading.plain_run m files directory names e.1 (mem_events_of_mem_load recorded)

/-- The whole trace of the rack, whatever the times. -/
theorem load_text_log_rack :
    let events := ((Session.load .standard).run
      (.start (rack ["a.conf", "b.conf"]) true)).2.journal.events.toList
    (events.map (·, 7)).map Prod.fst = events ∧
      (∀ p ∈ Sources.standard.files, 0x0a ∉ p.octets) ∧ 0x0a ∉ Sources.standard.directory.octets ∧
      (∀ names, (rack ["a.conf", "b.conf"]).list Sources.standard.directory = .ok names →
        ∀ name ∈ names, 0x0a ∉ name) ∧
      Text.Lines (LogFormat.text.lines (events.map (·, 7))) ((events.map (·, 7)).map fun e =>
        "static-subid: " ++ e.1.level.name ++ ": " ++ e.1.message) := by
  intro events
  have told : (events.map (·, 7)).map Prod.fst = events := by
    rw [List.map_map]
    exact List.map_id events
  have files : ∀ p ∈ Sources.standard.files, 0x0a ∉ p.octets := by decide
  have directory : 0x0a ∉ Sources.standard.directory.octets := by decide
  have names (names : List Octets)
      (listed : (rack ["a.conf", "b.conf"]).list Sources.standard.directory = .ok names) :
      ∀ name ∈ names, 0x0a ∉ name := by
    have given : (rack ["a.conf", "b.conf"]).list Sources.standard.directory =
      .ok (["a.conf", "b.conf"].map (Utf8.encode ·.toList)) := rfl
    cases given.symm.trans listed
    decide +kernel
  exact ⟨told, files, directory, names,
    (load_text_log (rack ["a.conf", "b.conf"]) true .standard _ told).2 files directory names⟩

/-- The name of an entry that reads like the end of a line and an event. -/
def forgedName : Octets := Utf8.encode "x\nstatic-subid: error: forged.conf".toList

/-- A machine with a directory of the superuser's that has such a name in it, of a file that
is not the superuser's. -/
def forge : Machine := { Machine.empty with
  entries := .ofList [
    (Sources.standard.directory, .ok (.directory (.of .directory 0 0o755) [forgedName])),
    (Sources.standard.directory.child forgedName, .ok (.file (.of .regular 1000 0o644) []))] }

/-- One event is recorded, and the log has two lines. -/
theorem load_text_log_forged :
    let e := Event.error "config_insecure" ("ignoring config file /etc/static-subid.conf.d/x\n" ++
      "static-subid: error: forged.conf: not owned by root (uid 1000)")
    ((Session.load .standard).run (.start forge false)).2.journal.events.toList = [e] ∧
      Text.Lines (LogFormat.text.lines [(e, 0)]) [
        "static-subid: error: ignoring config file /etc/static-subid.conf.d/x",
        "static-subid: error: forged.conf: not owned by root (uid 1000)"] ∧
      ¬Text.Lines (LogFormat.text.lines [(e, 0)])
        ["static-subid: " ++ e.level.name ++ ": " ++ e.message] := by
  intro e
  have sorted : Loading.fragmentNames [forgedName] = [forgedName] :=
    List.mergeSort_of_pairwise (by decide +kernel)
  have directory : Loading.fromDirectory forge Sources.standard.directory =
      (.ok (Loading.listed forge Sources.standard.directory [forgedName]),
        [.debug "config_dir_scan"
          s!"scanning config directory: {Sources.standard.directory.display}"]) := rfl
  refine ⟨?_, ⟨by decide +kernel, by decide +kernel⟩, ?_⟩
  · simp only [Act.run_load, loaded, Session.start, Loading.run, directory, Loading.listed, sorted]
    decide +kernel
  · intro whole
    exact absurd whole.2 (by decide +kernel)

end Session

end SubordinateIds
