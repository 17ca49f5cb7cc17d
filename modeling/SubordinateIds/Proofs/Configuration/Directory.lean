import SubordinateIds.Proofs.Acts

/-
  Directories — what can stop the loading

  A file of the sources, or a fragment, can go wrong in many ways, and none of them stops
  the loading: what becomes of it is a value that gives settings or none. Only the directory
  of the fragments stops it. `Stops` lists the four ways, each with the tests that were
  passed before, and `fromDirectory_eq_error_iff` says that there is no other.

  When the loading stops no fragment was opened, as the names in the directory are gone
  through only after the last of the four.
-/

namespace SubordinateIds

namespace Loading

variable {m m' : Machine} {directory : Path} {sources : Sources} {fault : Fault}

/-- The directory stops the loading, and this is the fault that is given. -/
inductive Stops (m : Machine) (directory : Path) : Fault → Prop where
  | badPath {fault : Path.Fault} (invalid : directory.check = .error fault) :
      Stops m directory (.badDirectory directory fault)
  | noStatus {error : SystemError} (valid : directory.check = .ok ())
      (unseen : m.status directory = .error error) (there : error ≠ .notFound) :
      Stops m directory (.noStatus directory error)
  | untrusted {status : FileStatus} {violation : FileStatus.Violation}
      (valid : directory.check = .ok ()) (seen : m.status directory = .ok status)
      (refused : status.checkDirectory = .error violation) :
      Stops m directory (.untrustedDirectory directory violation)
  | notListed {status : FileStatus} {error : SystemError} (valid : directory.check = .ok ())
      (seen : m.status directory = .ok status) (trusted : status.checkDirectory = .ok ())
      (unlisted : m.list directory = .error error) (there : error ≠ .notFound) :
      Stops m directory (.notListed directory error)

namespace Stops

theorem exists_iff : (∃ fault, Stops m directory fault) ↔
    (∃ fault, directory.check = .error fault) ∨
      (∃ error, m.status directory = .error error ∧ error ≠ .notFound) ∨
      (∃ status violation, m.status directory = .ok status ∧
        status.checkDirectory = .error violation) ∨
      ∃ status error, m.status directory = .ok status ∧ status.checkDirectory = .ok () ∧
        m.list directory = .error error ∧ error ≠ .notFound := by
  constructor
  · intro h
    obtain ⟨fault, stops⟩ := h
    cases stops with
    | badPath invalid => exact .inl ⟨_, invalid⟩
    | noStatus valid unseen there => exact .inr (.inl ⟨_, unseen, there⟩)
    | untrusted valid seen refused => exact .inr (.inr (.inl ⟨_, _, seen, refused⟩))
    | notListed valid seen trusted unlisted there =>
      exact .inr (.inr (.inr ⟨_, _, seen, trusted, unlisted, there⟩))
  · intro h
    -- a path that is not valid stops the loading before the other tests are made
    cases valid : directory.check with
    | error fault => exact ⟨_, .badPath valid⟩
    | ok =>
      rcases h with ⟨fault, invalid⟩ | ⟨error, unseen, there⟩ | ⟨status, violation, seen, refused⟩ |
        ⟨status, error, seen, trusted, unlisted, there⟩
      · rw [valid] at invalid
        cases invalid
      · exact ⟨_, .noStatus valid unseen there⟩
      · exact ⟨_, .untrusted valid seen refused⟩
      · exact ⟨_, .notListed valid seen trusted unlisted there⟩

theorem of_same (h : Stops m directory fault) (status : m'.status directory = m.status directory)
    (list : ∀ error, m'.list directory = .error error ↔ m.list directory = .error error) :
    Stops m' directory fault := by
  cases h with
  | badPath invalid => exact .badPath invalid
  | noStatus valid unseen there => exact .noStatus valid (status.trans unseen) there
  | untrusted valid seen refused => exact .untrusted valid (status.trans seen) refused
  | notListed valid seen trusted unlisted there =>
    exact .notListed valid (status.trans seen) trusted ((list _).mpr unlisted) there

end Stops

theorem scanned_eq_error_iff :
    (scanned m directory).1 = .error fault ↔
      ∃ error, m.list directory = .error error ∧ error ≠ .notFound ∧
        fault = .notListed directory error := by
  unfold scanned
  split
  · rename_i missing
    simp [missing]
  · rename_i error there unlisted
    simp only [unlisted, Except.error.injEq, exists_eq_left', ne_eq, eq_comm]
    exact (and_iff_right fun same => there same).symm
  · rename_i names listed
    simp [listed]

theorem fromDirectory_eq_error_iff :
    (fromDirectory m directory).1 = .error fault ↔ Stops m directory fault := by
  unfold fromDirectory
  constructor
  · intro h
    split at h
    · rename_i invalid
      cases h
      exact .badPath invalid
    · rename_i valid
      split at h
      · cases h
      · rename_i error there unseen
        cases h
        exact .noStatus valid unseen there
      · rename_i status seen
        split at h
        · rename_i refused
          cases h
          exact .untrusted valid seen refused
        · rename_i trusted
          obtain ⟨error, unlisted, there, rfl⟩ := scanned_eq_error_iff.mp h
          exact .notListed valid seen trusted unlisted there
  · intro h
    cases h with
    | badPath invalid => rw [invalid]
    | noStatus valid unseen there => simp only [valid, unseen]
    | untrusted valid seen refused => simp only [valid, seen, refused]
    | notListed valid seen trusted unlisted there =>
      simp only [valid, seen, trusted]
      exact scanned_eq_error_iff.mpr ⟨_, unlisted, there, rfl⟩

/-! ## What was opened by then -/

theorem wasOpened_ofOpenFile (file : OpenFile) : (Source.ofOpenFile file).wasOpened = true := by
  unfold Source.ofOpenFile
  split
  · rfl
  · split
    · rfl
    · split
      · rfl
      · split <;> rfl

theorem wasOpened_of (m : Machine) (p : Path) : (Source.of m p).wasOpened = p.check.isOk := by
  unfold Source.of
  split
  · rename_i fault invalid
    rw [invalid]
    rfl
  · rename_i valid
    rw [valid]
    split
    · rfl
    · rfl
    · exact wasOpened_ofOpenFile _

theorem opened_ofFile (m : Machine) (p : Path) :
    (Yield.ofFile m p).opened = if p.check.isOk then [p] else [] := by
  rw [Yield.ofFile, Yield.ofSource, wasOpened_of]

theorem opened_fromFiles (m : Machine) (files : List Path) :
    (fromFiles m files).opened = files.filter (·.check.isOk) := by
  have kept : (files.flatMap fun p => if p.check.isOk then [p] else []) =
      files.filter (·.check.isOk) := by
    induction files with
    | nil => rfl
    | cons p files ih =>
      rw [List.flatMap_cons, List.filter_cons, ih]
      split <;> rfl
  simp only [← kept, ← opened_ofFile m]
  exact List.flatMap_map ..

/-! ## Loading as a whole -/

theorem run_result_eq_error_iff :
    (run m sources).result = .error fault ↔ Stops m sources.directory fault := by
  rw [← fromDirectory_eq_error_iff]
  unfold run
  rcases fromDirectory m sources.directory with ⟨fault' | yield, events⟩
  · simp
  · simp

theorem run_opened_of_error (stopped : (run m sources).result = .error fault) :
    (run m sources).opened = sources.files.filter (·.check.isOk) := by
  rw [← opened_fromFiles m]
  unfold run at stopped ⊢
  rcases directory : fromDirectory m sources.directory with ⟨fault' | yield, events⟩
  · rfl
  · simp only [directory] at stopped
    cases stopped

end Loading

namespace Session

theorem load_eq_error_iff {s : Session} {sources : Sources} {fault : Loading.Fault} :
    ((Session.load sources).run s).1 = .error fault ↔
      Loading.Stops s.machine sources.directory fault := by
  rw [Act.run_load]
  exact Loading.run_result_eq_error_iff

/-- Only the directory stops the loading: if its path is not valid, if it is there and has
no status, is not trusted or is not listed. Files, fragments and the names in the directory
have no say in this or in the fault, and when the loading stops no fragment was opened. -/
theorem load_stops (s : Session) (sources : Sources) :
    ((∃ fault, ((Session.load sources).run s).1 = .error fault) ↔
      (∃ fault, sources.directory.check = .error fault) ∨
        (∃ error, s.machine.status sources.directory = .error error ∧ error ≠ .notFound) ∨
        (∃ status violation, s.machine.status sources.directory = .ok status ∧
          status.checkDirectory = .error violation) ∨
        ∃ status error, s.machine.status sources.directory = .ok status ∧
          status.checkDirectory = .ok () ∧
          s.machine.list sources.directory = .error error ∧ error ≠ .notFound) ∧
    (∀ fault, ((Session.load sources).run s).1 = .error fault ↔
      Loading.Stops s.machine sources.directory fault) ∧
    (∀ (t : Session) (files : List Path),
      t.machine.status sources.directory = s.machine.status sources.directory →
      (∀ error, t.machine.list sources.directory = .error error ↔
        s.machine.list sources.directory = .error error) →
      ∀ fault, ((Session.load ⟨files, sources.directory⟩).run t).1 = .error fault ↔
        ((Session.load sources).run s).1 = .error fault) ∧
    ∀ fault, ((Session.load sources).run s).1 = .error fault →
      ((Session.load sources).run s).2.opened.toList =
        s.opened.toList ++ sources.files.filter (·.check.isOk) := by
  refine ⟨?_, fun fault => load_eq_error_iff, ?_, ?_⟩
  · simp only [load_eq_error_iff]
    exact Loading.Stops.exists_iff
  · intro t files status list fault
    rw [load_eq_error_iff, load_eq_error_iff]
    constructor
    · intro stops
      exact stops.of_same status.symm fun error => (list error).symm
    · intro stops
      exact stops.of_same status list
  · intro fault failed
    have opened := Loading.run_opened_of_error failed
    rw [Act.run_load, Session.loaded, Array.toList_append, opened]

/-- A machine with a directory of settings that anyone may write to. -/
def cabinet (names : List Octets) : Machine := { Machine.empty with
  entries := .ofList [(Sources.standard.directory,
    .ok (.directory (.of .directory 0 0o777) names))] }

theorem entry_cabinet (names : List Octets) :
    (cabinet names).entry Sources.standard.directory =
      .ok (.directory (.of .directory 0 0o777) names) := by
  simp [Machine.entry, cabinet, PathMap.ofList, PathMap.get?_insert]

/-- Whatever lies in the directory, it is not gone through. -/
theorem load_stops_cabinet :
    let sources : Sources :=
      ⟨[.ofString "login.defs", .ofString "/etc/login.defs"], Sources.standard.directory⟩
    let fault := Loading.Fault.untrustedDirectory sources.directory (.worldWritable 0o777)
    let names := [Utf8.encode "10-office.conf".toList]
    ((Session.load sources).run (.start (cabinet []) false)).1 = .error fault ∧
      ((Session.load sources).run (.start (cabinet []) false)).2.opened.toList =
        [.ofString "/etc/login.defs"] ∧
      ((Session.load ⟨[], sources.directory⟩).run (.start (cabinet names) true)).1 =
        .error fault := by
  intro sources fault names
  obtain ⟨-, faults, same, opened⟩ := load_stops (.start (cabinet []) false) sources
  have status (names : List Octets) :
      (cabinet names).status sources.directory = .ok (.of .directory 0 0o777) := by
    rw [Machine.status, entry_cabinet]
    rfl
  have list (names : List Octets) : (cabinet names).list sources.directory = .ok names := by
    rw [Machine.list, entry_cabinet]
    rfl
  have failed := (faults fault).mpr (.untrusted rfl (status []) rfl)
  refine ⟨failed, (opened fault failed).trans rfl, ?_⟩
  refine (same (.start (cabinet names) true) [] ?_ ?_ fault).mpr failed
  · exact (status names).trans (status []).symm
  · intro error
    simp [Session.start, list]

end Session

end SubordinateIds
