import SubordinateIds.Proofs.Configuration.Merge

/-
  Wholeness — a file counts as a whole or not at all

  Reading a file asks for one octet more than the limit of 1 MiB. What it finds is
  described here by the length of the file and the place of its failure: reading breaks
  off exactly if the failure is no further than the end of the file and no further than
  the limit (`OpenFile.Breaks`), and the file is taken exactly if it is within the limit and
  its failure beyond its end (`OpenFile.Whole`). What is left is a file that is too large.

  So each path has one of three ends: its file is trusted, it is missing, or it is rejected
  for one reason that is reported (`trusted_or_missing_or_rejected`). Only in the first case
  the configuration changes, and then by all lines of the file.
-/

namespace SubordinateIds

namespace OpenFile

variable {f g : OpenFile} {limit count : Nat} {left left' got : Octets} {error : SystemError}

/-- The file is no larger than 1 MiB, and if reading it can fail then only beyond its end. -/
structure Whole (f : OpenFile) : Prop where
  small : f.contents.length ≤ 1048576
  late : ∀ n error, f.readTrouble = some (n, error) → f.contents.length < n

/-- Reading the file fails: in the file or at its end, and no later than after 1 MiB. -/
def Breaks (f : OpenFile) (error : SystemError) : Prop :=
  ∃ n, f.readTrouble = some (n, error) ∧ n ≤ f.contents.length ∧ n ≤ 1048576

theorem troubleAt?_eq_some_iff {n : Nat} :
    f.troubleAt? n = some error ↔ f.readTrouble = some (n, error) := by
  unfold troubleAt?
  rcases f.readTrouble with _ | ⟨after, failure⟩
  · simp
  · by_cases here : n = after
    · simp [here]
    · simp [here, Ne.symm here]

theorem readFrom_eq_error_iff :
    f.readFrom limit count left got = .error error ↔
      ∃ n, count ≤ n ∧ n < count + limit ∧ n ≤ count + left.length ∧
        f.troubleAt? n = some error := by
  induction limit generalizing count left got with
  | zero =>
    simp only [readFrom, reduceCtorEq, false_iff]
    intro h
    obtain ⟨n, low, high, -⟩ := h
    omega
  | succ limit ih =>
    cases now : f.troubleAt? count with
    | some failure =>
      simp only [readFrom, now, Except.error.injEq]
      constructor
      · intro same
        subst same
        exact ⟨count, Nat.le_refl _, by omega, by omega, now⟩
      · intro h
        obtain ⟨n, -, -, -, met⟩ := h
        -- there is only one place where reading fails
        rw [troubleAt?_eq_some_iff] at now met
        rw [now] at met
        cases met
        rfl
    | none =>
      cases left with
      | nil =>
        simp only [readFrom, now, reduceCtorEq, false_iff]
        intro h
        obtain ⟨n, low, -, high, met⟩ := h
        have here : n = count := by simpa using Nat.le_antisymm high low
        rw [here, now] at met
        cases met
      | cons b left =>
        simp only [readFrom, now, ih, List.length_cons]
        constructor
        · intro h
          obtain ⟨n, low, more, high, met⟩ := h
          exact ⟨n, by omega, by omega, by omega, met⟩
        · intro h
          obtain ⟨n, low, more, high, met⟩ := h
          have later : n ≠ count := by
            intro here
            rw [here, now] at met
            cases met
          exact ⟨n, by omega, by omega, by omega, met⟩

theorem readFrom_congr (octets : left.take limit = left'.take limit)
    (failures : ∀ n < count + limit, f.troubleAt? n = g.troubleAt? n) :
    f.readFrom limit count left got = g.readFrom limit count left' got := by
  induction limit generalizing count left left' got with
  | zero => rfl
  | succ limit ih =>
    unfold readFrom
    rw [failures count (by omega)]
    cases g.troubleAt? count with
    | some failure => rfl
    | none =>
      cases left with
      | nil =>
        cases left' with
        | nil => rfl
        | cons b' left' => cases octets
      | cons b left =>
        cases left' with
        | nil => cases octets
        | cons b' left' =>
          rw [List.take_succ_cons, List.take_succ_cons, List.cons.injEq] at octets
          obtain ⟨rfl, octets⟩ := octets
          exact ih octets fun n before => failures n (by omega)

theorem read_sizeLimit_eq_error_iff :
    f.read (Source.sizeLimit + 1) = .error error ↔ f.Breaks error := by
  have limit : Source.sizeLimit = 1048576 := rfl
  rw [read, readFrom_eq_error_iff, Breaks]
  simp only [troubleAt?_eq_some_iff, Nat.zero_add]
  constructor
  · intro h
    obtain ⟨n, -, asked, within, trouble⟩ := h
    exact ⟨n, trouble, within, by omega⟩
  · intro h
    obtain ⟨n, trouble, within, asked⟩ := h
    exact ⟨n, Nat.zero_le _, by omega, within, trouble⟩

theorem Breaks.not_whole (h : f.Breaks error) : ¬f.Whole := by
  intro whole
  obtain ⟨n, trouble, within, -⟩ := h
  have late := whole.late n error trouble
  omega

theorem exists_breaks (small : f.contents.length ≤ 1048576) (partly : ¬f.Whole) :
    ∃ error, f.Breaks error := by
  by_contra unbroken
  refine partly ⟨small, fun n error trouble => ?_⟩
  by_contra within
  exact unbroken ⟨error, n, trouble, by omega, by omega⟩

end OpenFile

/-! ## The three ends of a file -/

/-- The path is valid, and what opens there has the status of a trusted file. -/
structure Secure (m : Machine) (p : Path) (file : OpenFile) : Prop where
  valid : p.check = .ok ()
  opens : m.openFile p = .ok file
  passes : ∃ status, file.status = .ok status ∧ status.checkFile = .ok ()

/-- The path is valid, and there is nothing to open. -/
structure Missing (m : Machine) (p : Path) : Prop where
  valid : p.check = .ok ()
  absent : m.openFile p = .error .notFound

/-- The reasons to reject the file at a path, each with the problem that is reported. -/
inductive Rejected (m : Machine) (p : Path) : Event → Prop where
  | badPath {fault : Path.Fault} (invalid : p.check = .error fault) :
      Rejected m p (.error "config_path_invalid" s!"invalid config path: {fault.message}")
  | notOpened {error : SystemError} (valid : p.check = .ok ())
      (shut : m.openFile p = .error error) (there : error ≠ .notFound) :
      Rejected m p (.error "config_open_failed" s!"cannot open {p.display}: {error}")
  | noStatus {file : OpenFile} {error : SystemError} (valid : p.check = .ok ())
      (opens : m.openFile p = .ok file) (unknown : file.status = .error error) :
      Rejected m p (.error "config_stat_failed" s!"cannot fstat {p.display}: {error}")
  | untrusted {file : OpenFile} {status : FileStatus} {violation : FileStatus.Violation}
      (valid : p.check = .ok ()) (opens : m.openFile p = .ok file)
      (known : file.status = .ok status) (refused : status.checkFile = .error violation) :
      Rejected m p (.error "config_insecure"
        s!"ignoring config file {p.display}: {violation.message}")
  | notRead {file : OpenFile} {error : SystemError} (secure : Secure m p file)
      (broken : file.Breaks error) :
      Rejected m p (.error "config_read_failed" s!"cannot read {p.display}: {error}")
  | tooLarge {file : OpenFile} (secure : Secure m p file)
      (large : 1048576 < file.contents.length) (unbroken : ∀ error, ¬file.Breaks error) :
      Rejected m p (.error "config_too_large"
        s!"ignoring config file {p.display}: exceeds {Source.sizeLimit} bytes")

namespace Source

variable {m : Machine} {p : Path} {file : OpenFile} {contents : Octets} {error : SystemError}

theorem of_secure (secure : Secure m p file) : of m p = ofOpenFile file := by
  simp only [of, secure.valid, secure.opens]

theorem of_missing (missing : Missing m p) : of m p = .missing := by
  simp only [of, missing.valid, missing.absent]

theorem of_notOpened (valid : p.check = .ok ()) (shut : m.openFile p = .error error)
    (there : error ≠ .notFound) : of m p = .notOpened error := by
  simp only [of, valid, shut]

theorem trusted_iff : Trusted m p contents ↔
    ∃ file, Secure m p file ∧ file.Whole ∧ file.contents = contents := by
  constructor
  · intro h
    obtain ⟨valid, file, opens, status, known, regular, root, closed, rfl, small, late⟩ := h
    have passes := FileStatus.checkFile_eq_ok_iff.mpr ⟨regular, root, closed⟩
    exact ⟨file, ⟨valid, opens, status, known, passes⟩, ⟨small, late⟩, rfl⟩
  · intro h
    obtain ⟨file, secure, whole, rfl⟩ := h
    obtain ⟨status, known, passes⟩ := secure.passes
    obtain ⟨regular, root, closed⟩ := FileStatus.checkFile_eq_ok_iff.mp passes
    exact ⟨secure.valid, file, secure.opens, status, known, regular, root, closed, rfl,
      whole.small, whole.late⟩

theorem of_eq_taken_iff_whole (secure : Secure m p file) :
    of m p = .taken file.contents ↔ file.Whole := by
  rw [of_eq_taken_iff, trusted_iff]
  constructor
  · intro h
    obtain ⟨file', secure', whole, -⟩ := h
    have same : file' = file := Except.ok.inj (secure'.opens.symm.trans secure.opens)
    rwa [same] at whole
  · intro whole
    exact ⟨file, secure, whole, rfl⟩

theorem of_broken (secure : Secure m p file) (broken : file.Breaks error) :
    of m p = .notRead error := by
  obtain ⟨status, known, passes⟩ := secure.passes
  simp only [of_secure secure, ofOpenFile, known, passes,
    OpenFile.read_sizeLimit_eq_error_iff.mpr broken]

theorem of_large (secure : Secure m p file) (large : 1048576 < file.contents.length)
    (unbroken : ∀ error, ¬file.Breaks error) : of m p = .tooLarge := by
  obtain ⟨status, known, passes⟩ := secure.passes
  cases reading : file.read (sizeLimit + 1) with
  | error error => exact absurd (OpenFile.read_sizeLimit_eq_error_iff.mp reading) (unbroken error)
  | ok out =>
    have limit : sizeLimit = 1048576 := rfl
    have length : out.length = sizeLimit + 1 := by
      rw [OpenFile.read, OpenFile.readFrom_eq_ok_iff] at reading
      rw [reading.1, List.reverse_nil, List.nil_append, List.length_take]
      omega
    simp only [of_secure secure, ofOpenFile, known, passes, reading]
    rw [if_pos (by omega)]

/-- Whether reading breaks off and what is found depends on no more than one octet beyond
1 MiB and on no failure after 1 MiB. -/
theorem ofOpenFile_congr_read {f g : OpenFile} (status : f.status = g.status)
    (octets : f.contents.take 1048577 = g.contents.take 1048577)
    (failures : ∀ n ≤ 1048576, f.troubleAt? n = g.troubleAt? n) : ofOpenFile f = ofOpenFile g := by
  have limit : sizeLimit + 1 = 1048577 := rfl
  have read : f.read (sizeLimit + 1) = g.read (sizeLimit + 1) :=
    OpenFile.readFrom_congr octets fun n before => failures n (by omega)
  unfold ofOpenFile
  rw [status, read]

end Source

/-- A secure file that is not whole is rejected, for one of two reasons. -/
theorem Secure.rejected {m : Machine} {p : Path} {file : OpenFile} (secure : Secure m p file)
    (partly : ¬file.Whole) : ∃ e, Rejected m p e ∧
      (e.label = "config_read_failed" ↔ ∃ error, file.Breaks error) ∧
      (e.label = "config_too_large" ↔ ∀ error, ¬file.Breaks error) := by
  by_cases broken : ∃ error, file.Breaks error
  · obtain ⟨error, broken⟩ := broken
    refine ⟨_, .notRead secure broken, ?_, ?_⟩
    · simp only [Event.error, true_iff]
      exact ⟨error, broken⟩
    · simp only [Event.error, String.reduceEq, false_iff]
      exact fun unbroken => unbroken error broken
  · have unbroken : ∀ error, ¬file.Breaks error := not_exists.mp broken
    have large : 1048576 < file.contents.length := by
      by_contra small
      exact broken (OpenFile.exists_breaks (Nat.not_lt.mp small) partly)
    refine ⟨_, .tooLarge secure large unbroken, ?_, ?_⟩
    · simp only [Event.error, String.reduceEq, false_iff]
      exact broken
    · simp only [Event.error, true_iff]
      exact unbroken

theorem trusted_or_missing_or_rejected (m : Machine) (p : Path) :
    (∃ contents, Trusted m p contents) ∨ Missing m p ∨ ∃ e, Rejected m p e := by
  cases valid : p.check with
  | error fault => exact .inr (.inr ⟨_, .badPath valid⟩)
  | ok =>
    cases opens : m.openFile p with
    | error error =>
      by_cases absent : error = .notFound
      · subst absent
        exact .inr (.inl ⟨valid, opens⟩)
      · exact .inr (.inr ⟨_, .notOpened valid opens absent⟩)
    | ok file =>
      cases known : file.status with
      | error error => exact .inr (.inr ⟨_, .noStatus valid opens known⟩)
      | ok status =>
        cases passes : status.checkFile with
        | error violation => exact .inr (.inr ⟨_, .untrusted valid opens known passes⟩)
        | ok =>
          have secure : Secure m p file := ⟨valid, opens, status, known, passes⟩
          by_cases whole : file.Whole
          · exact .inl ⟨_, Source.trusted_iff.mpr ⟨file, secure, whole, rfl⟩⟩
          · obtain ⟨e, rejected, -⟩ := secure.rejected whole
            exact .inr (.inr ⟨e, rejected⟩)

/-! ## What each end gives -/

namespace Line

variable {p : Path} {line : Line} {e : Event}

/-- The only problem that a line can be is a block that is too large. -/
theorem event?_problem_iff : line.event? p = some e ∧ e.level ≠ .debug ↔
    ∃ key n, line = .refused (.countLimit key n) ∧ e = .error "config_value_rejected"
      s!"file {p.display} {(Setting.Fault.countLimit key n).message}" := by
  constructor
  · intro h
    obtain ⟨said, serious⟩ := h
    cases line with
    | refused fault =>
      cases fault with
      | countLimit key n => exact ⟨key, n, rfl, (Option.some.inj said).symm⟩
      | invalidValue key value fault =>
        cases said
        exact absurd rfl serious
    | blank => cases said
    | unknownKey => cases said
    | _ =>
      cases said
      exact absurd rfl serious
  · intro h
    obtain ⟨key, n, rfl, rfl⟩ := h
    exact ⟨rfl, by simp [Event.error]⟩

end Line

namespace Yield

variable {m : Machine} {p : Path} {contents : Octets} {e : Event}

/-- Whatever comes of a file, only its verdict and its lines can be problems. -/
theorem problems_ofSource (p : Path) (source : Source) :
    Event.problems (ofSource p source).events =
      Event.problems [source.verdict p] ++
        Event.problems (source.lines.filterMap (Line.event? p)) := by
  unfold ofSource
  cases source.wasOpened <;> simp [← Event.problems_append]

theorem ofFile_of_rejected (h : Rejected m p e) :
    e.level = .error ∧ (ofFile m p).settings = [] ∧ Event.problems (ofFile m p).events = [e] := by
  have verdict : ∃ source, Source.of m p = source ∧ source.lines = [] ∧ source.verdict p = e ∧
      e.level = .error := by
    cases h with
    | badPath invalid => exact ⟨.badPath _, by simp only [Source.of, invalid], rfl, rfl, rfl⟩
    | notOpened valid shut there =>
      exact ⟨_, Source.of_notOpened valid shut there, rfl, rfl, rfl⟩
    | noStatus valid opens unknown =>
      exact ⟨.noStatus _, by simp only [Source.of, valid, opens, Source.ofOpenFile, unknown],
        rfl, rfl, rfl⟩
    | untrusted valid opens known refused =>
      exact ⟨.untrusted _, by simp only [Source.of, valid, opens, Source.ofOpenFile, known, refused],
        rfl, rfl, rfl⟩
    | notRead secure broken => exact ⟨_, Source.of_broken secure broken, rfl, rfl, rfl⟩
    | tooLarge secure large unbroken =>
      exact ⟨_, Source.of_large secure large unbroken, rfl, rfl, rfl⟩
  obtain ⟨source, found, silent, rfl, serious⟩ := verdict
  refine ⟨serious, ?_, ?_⟩
  · simp only [ofFile, ofSource, found, silent, List.filterMap_nil]
  · rw [ofFile, found, problems_ofSource, silent]
    simp [Event.problems, serious, Journal.Filter.admits]

theorem ofFile_of_missing (h : Missing m p) :
    (ofFile m p).settings = [] ∧ Event.problems (ofFile m p).events = [] := by
  rw [ofFile, Source.of_missing h]
  exact ⟨rfl, rfl⟩

theorem ofFile_of_trusted (h : Trusted m p contents) :
    Event.problems (ofFile m p).events =
      Event.problems ((Line.ofContents contents).filterMap (Line.event? p)) := by
  rw [ofFile, Source.of_eq_taken_iff.mpr h, problems_ofSource]
  rfl

theorem label_of_trusted (h : Trusted m p contents)
    (mem : e ∈ Event.problems (ofFile m p).events) : e.label = "config_value_rejected" := by
  rw [ofFile_of_trusted h, Event.problems, List.mem_filter] at mem
  obtain ⟨line, -, said⟩ := List.mem_filterMap.mp mem.1
  have serious : e.level ≠ .debug := by simpa [Journal.Filter.admits] using mem.2
  obtain ⟨key, n, -, rfl⟩ := Line.event?_problem_iff.mp ⟨said, serious⟩
  rfl

end Yield

namespace Configuration

/-- The configuration after the file at a path was gone through. -/
def afterFile (c : Configuration) (m : Machine) (p : Path) : Configuration :=
  c.setAll (Yield.ofFile m p).settings

variable {m : Machine} {p : Path} {contents : Octets}

theorem afterFile_of_trusted (trusted : Trusted m p contents) (c : Configuration) :
    c.afterFile m p = c.afterPieces (List.splitOn 0x0a contents) := by
  rw [afterFile, Loading.settings_ofFile, Loading.piecesAt, Source.of_eq_taken_iff.mpr trusted,
    afterPieces]

end Configuration

/-- The file at a path leaves every configuration as it is, and all that is reported of it
are these problems. -/
structure Left (m : Machine) (p : Path) (problems : List Event) : Prop where
  unchanged : ∀ c : Configuration, c.afterFile m p = c
  reported : Event.problems (Yield.ofFile m p).events = problems

namespace Left

variable {m : Machine} {p : Path} {e : Event}

theorem of_rejected (h : Rejected m p e) : Left m p [e] := by
  obtain ⟨-, nothing, reported⟩ := Yield.ofFile_of_rejected h
  exact ⟨fun c => by rw [Configuration.afterFile, nothing]; rfl, reported⟩

theorem of_missing (h : Missing m p) : Left m p [] := by
  obtain ⟨nothing, reported⟩ := Yield.ofFile_of_missing h
  exact ⟨fun c => by rw [Configuration.afterFile, nothing]; rfl, reported⟩

end Left

namespace Loading

theorem run_result_eq_foldl {m : Machine} {sources : Sources} {c : Configuration}
    (loaded : (run m sources).result = .ok c) :
    ∃ names, Fragments m sources.directory names ∧
      c = (sources.files ++ names.map sources.directory.child).foldl (·.afterFile m ·)
        .default := by
  obtain ⟨names, y, fragments, sums, rfl⟩ := sums_of_loaded loaded
  refine ⟨names, fragments, ?_⟩
  rw [sums.settings, Configuration.setAll, List.foldl_flatMap]
  rfl

end Loading

namespace Session

/-- Loading goes from file to file, and each of them counts as a whole or not at all. A
secure file within 1 MiB that can be read to its end is taken, with all its lines. Any other
file leaves the configuration as it is: if it is secure, one error is reported, namely that
reading failed or else that the file is too large; if not, it is missing, or the one error
is why it was rejected. What comes after one octet more than 1 MiB does not count, and no
failure there. -/
theorem load_whole_or_left (s : Session) (sources : Sources) :
    (∀ c, ((Session.load sources).run s).1 = .ok c →
        ∃ names, Fragments s.machine sources.directory names ∧
          c = (sources.files ++ names.map sources.directory.child).foldl (·.afterFile s.machine ·)
            .default) ∧
      ∀ p : Path,
        (∀ file, Secure s.machine p file →
          (Source.of s.machine p = .taken file.contents ↔ file.Whole) ∧
          (file.Whole →
            (∀ c : Configuration,
              c.afterFile s.machine p = c.afterPieces (List.splitOn 0x0a file.contents)) ∧
            ∀ e ∈ Event.problems (Yield.ofFile s.machine p).events,
              e.label = "config_value_rejected") ∧
          (¬file.Whole → ∃ e, Rejected s.machine p e ∧ Left s.machine p [e] ∧ e.level = .error ∧
            (e.label = "config_read_failed" ↔ ∃ error, file.Breaks error) ∧
            (e.label = "config_too_large" ↔ ∀ error, ¬file.Breaks error)) ∧
          ∀ file' : OpenFile, file'.status = file.status →
            file'.contents.take 1048577 = file.contents.take 1048577 →
            (∀ n ≤ 1048576, file'.troubleAt? n = file.troubleAt? n) →
            Source.ofOpenFile file' = Source.of s.machine p) ∧
        ((∀ file, ¬Secure s.machine p file) →
          Missing s.machine p ∧ Left s.machine p [] ∨
            ∃ e, Rejected s.machine p e ∧ Left s.machine p [e]) := by
  refine ⟨?_, fun p => ⟨?_, ?_⟩⟩
  · intro c loaded
    rw [Act.run_load] at loaded
    exact Loading.run_result_eq_foldl loaded
  · intro file secure
    refine ⟨Source.of_eq_taken_iff_whole secure, ?_, ?_, ?_⟩
    · intro whole
      have trusted : Trusted s.machine p file.contents :=
        Source.trusted_iff.mpr ⟨file, secure, whole, rfl⟩
      exact ⟨Configuration.afterFile_of_trusted trusted, fun e => Yield.label_of_trusted trusted⟩
    · intro partly
      obtain ⟨e, rejected, labels⟩ := secure.rejected partly
      exact ⟨e, rejected, .of_rejected rejected, (Yield.ofFile_of_rejected rejected).1, labels⟩
    · intro file' status octets failures
      rw [Source.of_secure secure]
      exact Source.ofOpenFile_congr_read status octets failures
  · intro insecure
    obtain ⟨contents, trusted⟩ | missing | ⟨e, rejected⟩ :=
      trusted_or_missing_or_rejected s.machine p
    · obtain ⟨file, secure, -⟩ := Source.trusted_iff.mp trusted
      exact absurd secure (insecure file)
    · exact .inl ⟨missing, .of_missing missing⟩
    · exact .inr ⟨e, rejected, .of_rejected rejected⟩

/-- A machine with two files that fail when more is asked of them: the first one at its end,
the second one just beyond it. -/
def spool : Machine := { Machine.empty with
  entries := .ofList [
    (.ofString "/etc/login.defs",
      .ok (.file (.of .regular 0 0o644) (Utf8.encode "UID_MIN 500".toList))),
    (.ofString "/etc/static-subid.conf",
      .ok (.file (.of .regular 0 0o644) (Utf8.encode "UID_MAX 70000".toList)))]
  troubles := .ofList [
    (.ofString "/etc/login.defs", ⟨none, some (11, .timedOut)⟩),
    (.ofString "/etc/static-subid.conf", ⟨none, some (14, .timedOut)⟩)] }

/-- The first file is left, although all of it was read before the failure; the second is
taken. -/
theorem load_whole_or_left_spool :
    ((Session.load .standard).run (.start spool false)).1 =
        .ok { Configuration.default with uidMax := 70000 } ∧
      (∃ e, Left spool (.ofString "/etc/login.defs") [e] ∧ e.label = "config_read_failed") ∧
      Source.of spool (.ofString "/etc/static-subid.conf") =
        .taken (Utf8.encode "UID_MAX 70000".toList) := by
  obtain ⟨-, files⟩ := load_whole_or_left (.start spool false) .standard
  refine ⟨by decide +kernel, ?_, ?_⟩
  · let file : OpenFile :=
      ⟨.ok (.of .regular 0 0o644), Utf8.encode "UID_MIN 500".toList, some (11, .timedOut)⟩
    have secure : Secure spool (.ofString "/etc/login.defs") file :=
      ⟨by decide +kernel, by rfl, _, rfl, by decide⟩
    have broken : file.Breaks .timedOut := ⟨11, rfl, by decide +kernel, by decide⟩
    obtain ⟨-, -, left, -⟩ := (files _).1 file secure
    obtain ⟨e, -, leaves, -, label, -⟩ := left broken.not_whole
    exact ⟨e, leaves, label.mpr ⟨_, broken⟩⟩
  · let file : OpenFile :=
      ⟨.ok (.of .regular 0 0o644), Utf8.encode "UID_MAX 70000".toList, some (14, .timedOut)⟩
    have secure : Secure spool (.ofString "/etc/static-subid.conf") file :=
      ⟨by decide +kernel, by rfl, _, rfl, by decide⟩
    have whole : file.Whole :=
      ⟨by decide +kernel, fun n error trouble => by cases trouble; decide +kernel⟩
    exact ((files _).1 file secure).1.mpr whole

end Session

end SubordinateIds
