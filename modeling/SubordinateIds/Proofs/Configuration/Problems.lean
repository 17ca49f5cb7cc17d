import Mathlib.Data.List.Forall2
import SubordinateIds.Proofs.Configuration.Wholeness

/-
  Problems — all that loading reports when the trace is off

  Of the file at a path, what is reported follows from its end: nothing if it is missing,
  one problem if it is rejected, and otherwise one for each of its lines that asks for
  blocks above the limit (`FileReports`). Of the directory, only that it is not trusted is
  reported (`DirectoryReports`).

  Each of the two relations leaves one list of problems, so they say what is reported and
  what is not. `load_reports` puts the lists in order: the files, the directory, and then,
  unless the directory stopped the loading, the fragments.
-/

namespace SubordinateIds

/-! ## Lines -/

/-- The line offers digits for the size of the blocks of a kind, and they stand for more than
the largest block. Digits whose value takes more than 32 bits are no number at all. -/
def Line.Overcounts (octets : Octets) (kind : Kind) (n : UInt32) : Prop :=
  67108864 < n.toNat ∧ ∃ value, Line.Offers octets (NumberKey.poolCount kind).spelling value ∧
    value.toList ≠ [] ∧ (∀ c ∈ value.toList, c.isDigit = true) ∧
    Nat.ofDigitChars 10 value.toList 0 = n.toNat

theorem Line.overcounts_iff {octets : Octets} {kind : Kind} {n : UInt32} :
    Line.Overcounts octets kind n ↔
      Line.ofOctets octets = .refused (.countLimit (.poolCount kind) n) := by
  simp only [Line.ofOctets_eq_refused_iff, Setting.read_countLimit_iff, Decimal.read_eq_ok_iff]
  constructor
  · intro h
    obtain ⟨large, value, offers, digits⟩ := h
    exact ⟨_, value, offers, rfl, rfl, large, digits⟩
  · intro h
    obtain ⟨key, value, offers, rfl, -, large, digits⟩ := h
    exact ⟨large, value, offers, digits⟩

/-- The problems that lines of the file at a path are: one for each line that asks for blocks
above the limit, in the order of the lines. -/
inductive Refusals (p : Path) : List Octets → List Event → Prop where
  | nil : Refusals p [] []
  | beyond {octets : Octets} {pieces : List Octets} {kind : Kind} {n : UInt32} {es : List Event}
      (more : Line.Overcounts octets kind n) (rest : Refusals p pieces es) :
      Refusals p (octets :: pieces) (.error "config_value_rejected"
        s!"file {p.display} {(Setting.Fault.countLimit (.poolCount kind) n).message}" :: es)
  | within {octets : Octets} {pieces : List Octets} {es : List Event}
      (fits : ∀ kind n, ¬Line.Overcounts octets kind n) (rest : Refusals p pieces es) :
      Refusals p (octets :: pieces) es

namespace Refusals

variable {p : Path} {octets : Octets} {pieces : List Octets} {es : List Event}

/-- The problems of lines, as they come of reading them. -/
def problems (p : Path) (pieces : List Octets) : List Event :=
  Event.problems (pieces.filterMap fun piece => (Line.ofOctets piece).event? p)

theorem problems_beyond {kind : Kind} {n : UInt32} (more : Line.Overcounts octets kind n) :
    problems p (octets :: pieces) = .error "config_value_rejected"
      s!"file {p.display} {(Setting.Fault.countLimit (.poolCount kind) n).message}" ::
        problems p pieces := by
  rw [problems, List.filterMap_cons, Line.overcounts_iff.mp more]
  rfl

theorem problems_within (fits : ∀ kind n, ¬Line.Overcounts octets kind n) :
    problems p (octets :: pieces) = problems p pieces := by
  rw [problems, List.filterMap_cons]
  cases said : (Line.ofOctets octets).event? p with
  | none => rfl
  | some e =>
    have trace : e.level = .debug := by
      by_contra serious
      obtain ⟨key, n, refused, -⟩ := Line.event?_problem_iff.mp ⟨said, serious⟩
      -- only the size of blocks can be refused as too large
      obtain ⟨spelled, value, -, reads⟩ := Line.ofOctets_eq_refused_iff.mp refused
      obtain ⟨-, count, -⟩ := Setting.read_countLimit_iff.mp reads
      cases key with
      | poolCount kind => exact fits kind n (Line.overcounts_iff.mpr refused)
      | _ => cases count
    simp [Event.problems, trace, Journal.Filter.admits, problems]

theorem iff_problems : Refusals p pieces es ↔ problems p pieces = es := by
  constructor
  · intro h
    induction h with
    | nil => rfl
    | beyond more rest ih => rw [problems_beyond more, ih]
    | within fits rest ih => rw [problems_within fits, ih]
  · intro h
    subst h
    induction pieces with
    | nil => exact .nil
    | cons octets pieces ih =>
      by_cases asked : ∃ kind n, Line.Overcounts octets kind n
      · obtain ⟨kind, n, more⟩ := asked
        rw [problems_beyond more]
        exact .beyond more ih
      · have fits : ∀ kind n, ¬Line.Overcounts octets kind n := by simpa using asked
        rw [problems_within fits]
        exact .within fits ih

end Refusals

/-! ## Files -/

/-- The problems that are reported of the file at a path. -/
inductive FileReports (m : Machine) (p : Path) : List Event → Prop where
  | rejected {e : Event} (rejected : Rejected m p e) : FileReports m p [e]
  | missing (missing : Missing m p) : FileReports m p []
  | applied {contents : Octets} {es : List Event} (trusted : Trusted m p contents)
      (refusals : Refusals p (List.splitOn 0x0a contents) es) : FileReports m p es

namespace FileReports

variable {m : Machine} {p : Path} {contents : Octets} {e : Event} {es : List Event}

theorem problems_of_trusted (trusted : Trusted m p contents) :
    Event.problems (Yield.ofFile m p).events = Refusals.problems p (List.splitOn 0x0a contents) := by
  rw [Yield.ofFile_of_trusted trusted, Line.ofContents, List.filterMap_map, Octets.splitOn_eq]
  rfl

theorem iff_problems : FileReports m p es ↔ Event.problems (Yield.ofFile m p).events = es := by
  constructor
  · intro h
    cases h with
    | rejected rejected => exact (Left.of_rejected rejected).reported
    | missing missing => exact (Left.of_missing missing).reported
    | applied trusted refusals =>
      rw [problems_of_trusted trusted]
      exact Refusals.iff_problems.mp refusals
  · intro h
    subst h
    obtain ⟨contents, trusted⟩ | missing | ⟨e, rejected⟩ := trusted_or_missing_or_rejected m p
    · rw [problems_of_trusted trusted]
      exact .applied trusted (Refusals.iff_problems.mpr rfl)
    · rw [(Left.of_missing missing).reported]
      exact .missing missing
    · rw [(Left.of_rejected rejected).reported]
      exact .rejected rejected

theorem eq_of_rejected (rejected : Rejected m p e) (reports : FileReports m p es) : es = [e] :=
  (iff_problems.mp reports).symm.trans (Left.of_rejected rejected).reported

theorem of_paths (m : Machine) (ps : List Path) :
    List.Forall₂ (FileReports m) ps (ps.map fun p => Event.problems (Yield.ofFile m p).events) := by
  rw [List.forall₂_map_right_iff, List.forall₂_same]
  exact fun p _ => iff_problems.mpr rfl

end FileReports

theorem Rejected.label_ne {m : Machine} {p : Path} {e : Event} (h : Rejected m p e) :
    e.label ≠ "config_value_rejected" := by
  cases h <;> simp [Event.error]

/-! ## The directory -/

/-- The problems that are reported of the directory: one if its status is seen and refused. -/
inductive DirectoryReports (m : Machine) (directory : Path) : List Event → Prop where
  | insecure {status : FileStatus} {violation : FileStatus.Violation}
      (valid : directory.check = .ok ()) (seen : m.status directory = .ok status)
      (refused : status.checkDirectory = .error violation) :
      DirectoryReports m directory [.error "config_dir_insecure"
        s!"config directory {directory.display} is insecure: {violation.message}"]
  | quiet (accepted : ∀ status violation, directory.check = .ok () →
        m.status directory = .ok status → status.checkDirectory ≠ .error violation) :
      DirectoryReports m directory []

namespace DirectoryReports

variable {m : Machine} {directory : Path}

theorem of_stops {fault : Loading.Fault} (stops : Loading.Stops m directory fault) :
    DirectoryReports m directory fault.problems := by
  cases stops with
  | untrusted valid seen refused => exact .insecure valid seen refused
  | badPath invalid =>
    refine .quiet fun status violation valid _ _ => ?_
    rw [invalid] at valid
    cases valid
  | noStatus _ unseen _ =>
    refine .quiet fun status violation _ seen _ => ?_
    rw [unseen] at seen
    cases seen
  | notListed _ seen trusted _ _ =>
    refine .quiet fun status violation _ seen' refused => ?_
    rw [seen, Except.ok.injEq] at seen'
    rw [← seen', trusted] at refused
    cases refused

theorem of_clear (clear : ∀ fault, ¬Loading.Stops m directory fault) :
    DirectoryReports m directory [] :=
  .quiet fun _ _ valid seen refused => clear _ (.untrusted valid seen refused)

end DirectoryReports

namespace Loading

/-- The problems of a loading: those of the files, of the directory and of the fragments. -/
theorem run_problems (m : Machine) (sources : Sources) :
    ∃ (names : List Octets) (directory : List Event),
      Event.problems (run m sources).events =
        (sources.files.map fun p => Event.problems (Yield.ofFile m p).events).flatten ++ directory ++
          ((names.map sources.directory.child).map fun p =>
            Event.problems (Yield.ofFile m p).events).flatten ∧
      DirectoryReports m sources.directory directory ∧
      ((∃ fault, Stops m sources.directory fault) ∧ names = [] ∨
        (∀ fault, ¬Stops m sources.directory fault) ∧ Fragments m sources.directory names) := by
  by_cases stopped : ∃ fault, Stops m sources.directory fault
  · obtain ⟨fault, stops⟩ := stopped
    obtain ⟨y, sums, -, -, problems⟩ := run_of_stops stops
    refine ⟨[], fault.problems, ?_, .of_stops stops, .inl ⟨⟨fault, stops⟩, rfl⟩⟩
    rw [problems, sums.problems, List.flatMap_def]
    simp
  · have clear : ∀ fault, ¬Stops m sources.directory fault := not_exists.mp stopped
    obtain ⟨names, y, fragments, sums, -, -, problems⟩ := run_of_clear clear
    refine ⟨names, [], ?_, .of_clear clear, .inr ⟨clear, fragments⟩⟩
    rw [problems, sums.problems, List.flatMap_append, List.flatMap_def, List.flatMap_def,
      List.append_nil]

end Loading

namespace Session

/-- When the trace is off, the problems are all that is recorded, in the order in which the
sources are gone through: those of each file, of the directory, and of each fragment in
ascending order of the names. A source that is rejected gives one problem, which is none of
its lines', and no setting. -/
theorem load_reports (s : Session) (sources : Sources) (quiet : s.journal.filter = .problems) :
    (∃ (names : List Octets) (files fragments : List (List Event)) (directory : List Event),
      ((Session.load sources).run s).2.journal.events.toList =
        s.journal.events.toList ++ (files.flatten ++ directory ++ fragments.flatten) ∧
      List.Forall₂ (FileReports s.machine) sources.files files ∧
      DirectoryReports s.machine sources.directory directory ∧
      List.Forall₂ (FileReports s.machine) (names.map sources.directory.child) fragments ∧
      ((∃ fault, Loading.Stops s.machine sources.directory fault) ∧ names = [] ∨
        (∀ fault, ¬Loading.Stops s.machine sources.directory fault) ∧
          Fragments s.machine sources.directory names)) ∧
      ∀ p e, Rejected s.machine p e →
        e.level = .error ∧ e.label ≠ "config_value_rejected" ∧
          (Yield.ofFile s.machine p).settings = [] ∧
          ∀ es, FileReports s.machine p es → es = [e] := by
  refine ⟨?_, ?_⟩
  · obtain ⟨names, directory, problems, reports, order⟩ := Loading.run_problems s.machine sources
    refine ⟨names, _, _, directory, ?_, FileReports.of_paths _ _, reports,
      FileReports.of_paths _ _, order⟩
    rw [Act.run_load, loaded, Journal.toList_recordAll, quiet, ← problems]
    rfl
  · intro p e rejected
    obtain ⟨serious, nothing, -⟩ := Yield.ofFile_of_rejected rejected
    exact ⟨serious, rejected.label_ne, nothing, fun es => FileReports.eq_of_rejected rejected⟩

/-- A machine with a file that asks for blocks above the limit and has lines that mean
nothing, a file that the superuser does not own, and a directory that anyone may write. -/
def lockers : Machine := { Machine.empty with
  entries := .ofList [
    (.ofString "/etc/login.defs", .ok (.file (.of .regular 0 0o644)
      (Utf8.encode "UID_MIN low\nSUB_UID_COUNT 67108865\nNOPE 3\nUID_MAX 70000".toList))),
    (.ofString "/etc/static-subid.conf",
      .ok (.file (.of .regular 1000 0o644) (Utf8.encode "UID_MIN 0".toList))),
    (Sources.standard.directory, .ok (.directory (.of .directory 0 0o777) []))] }

/-- Three problems are recorded: those of the two files, and that of the directory, which
stops the loading before any fragment. -/
theorem load_reports_lockers :
    (Session.start lockers false).journal.filter = .problems ∧
      ((Session.load .standard).run (.start lockers false)).2.journal.events.toList = [
        .error "config_value_rejected"
          "file /etc/login.defs SUB_UID_COUNT 67108865 exceeds defined limit of 67108864",
        .error "config_insecure"
          "ignoring config file /etc/static-subid.conf: not owned by root (uid 1000)",
        .error "config_dir_insecure"
          "config directory /etc/static-subid.conf.d is insecure: world-writable (mode 777)"] ∧
      ∃ (files : List (List Event)) (directory : List Event),
        ((Session.load .standard).run (.start lockers false)).2.journal.events.toList =
          files.flatten ++ directory ∧
        List.Forall₂ (FileReports lockers) Sources.standard.files files ∧
        DirectoryReports lockers Sources.standard.directory directory := by
  refine ⟨rfl, by decide +kernel, ?_⟩
  obtain ⟨⟨names, files, fragments, directory, recorded, reports, refused, inside, order⟩, -⟩ :=
    load_reports (.start lockers false) .standard rfl
  have stops : Loading.Stops lockers Sources.standard.directory
      (.untrustedDirectory Sources.standard.directory (.worldWritable 0o777)) :=
    .untrusted (by decide +kernel) (by rfl) (by decide)
  obtain ⟨-, rfl⟩ | ⟨clear, -⟩ := order
  · cases inside
    refine ⟨files, directory, ?_, reports, refused⟩
    simpa [Session.start, Journal.ofVerbose, Journal.empty] using recorded
  · exact absurd stops (clear _)

end Session

end SubordinateIds
