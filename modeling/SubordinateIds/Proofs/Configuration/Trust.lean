import SubordinateIds.Proofs.Configuration.Source
import SubordinateIds.Configuration.Loading
import SubordinateIds.Proofs.Pairs

/-
  Trust — what is not trusted is not looked into

  Two machines are alike if they differ at most in the contents of files whose status is
  refused. Such a file comes to the same end on both: it is opened, its status is asked
  for, and it is dropped before an octet of it is read. So whatever loading asks the
  machine for (what becomes of a file, the status of the directory, the names in it) it
  is answered alike, and it comes to the same configuration, events and opened paths.

  `Loading.run_congr` is the half of this that knows nothing of trust: loading depends on
  a machine through those three answers only, and on what becomes of a file only through
  what the file gives (`Loading.run_congr_ofFile`). The status and the names do not depend on
  what is in a file (`Machine.Entry.shell`).
-/

namespace SubordinateIds

/-! ## What loading depends on -/

namespace Loading

variable {m m' : Machine} {sources : Sources}

/-- Loading depends on a machine through what its files give, and through the status and the
names of one directory. -/
theorem run_congr_ofFile (file : ∀ p, Yield.ofFile m p = Yield.ofFile m' p)
    (status : m.status sources.directory = m'.status sources.directory)
    (list : m.list sources.directory = m'.list sources.directory) :
    run m sources = run m' sources := by
  have files : Yield.ofFile m = Yield.ofFile m' := funext file
  have fragments : fragment m sources.directory = fragment m' sources.directory := by
    funext name
    rw [fragment, fragment, files]
  have directory : fromDirectory m sources.directory = fromDirectory m' sources.directory := by
    simp only [fromDirectory, scanned, listed, status, list, fragments]
  rw [run, run, directory, fromFiles, fromFiles, files]

theorem run_congr (file : ∀ p, Source.of m p = Source.of m' p)
    (status : m.status sources.directory = m'.status sources.directory)
    (list : m.list sources.directory = m'.list sources.directory) :
    run m sources = run m' sources := by
  refine run_congr_ofFile (fun p => ?_) status list
  rw [Yield.ofFile, Yield.ofFile, file]

end Loading

/-! ## Entries without what is in them -/

namespace Machine

/-- The entry without what is in it, if it is a file. -/
def Entry.shell : Entry → Entry
  | .file status _ => .file status []
  | .directory status names => .directory status names

section Shell

variable {m m' : Machine} {p : Path}

theorem status_congr (same : (m.entry p).map Entry.shell = (m'.entry p).map Entry.shell) :
    m.status p = m'.status p := by
  have asked (m : Machine) : m.status p = ((m.entry p).map Entry.shell).map Entry.status := by
    unfold Machine.status
    cases m.entry p with
    | error error => rfl
    | ok e => cases e <;> rfl
  rw [asked, asked, same]

theorem list_congr (errors : m.listingErrors = m'.listingErrors)
    (same : (m.entry p).map Entry.shell = (m'.entry p).map Entry.shell) :
    m.list p = m'.list p := by
  unfold Machine.list
  rw [errors]
  generalize m.entry p = x at same
  generalize m'.entry p = x' at same
  rcases x with _ | _ | _ <;> rcases x' with _ | _ | _ <;> cases same <;> rfl

end Shell

/-! ## Machines that are alike -/

/-- The entries are the same, but for the contents of a file that is not regular, does not
belong to the superuser or can be written by others. -/
inductive Entry.Alike : Entry → Entry → Prop where
  | same (e : Entry) : Alike e e
  | untrusted {status : FileStatus} {contents contents' : Octets}
      (refused : status.type ≠ .regular ∨ status.owner ≠ 0 ∨ status.mode &&& 0o002 ≠ 0) :
      Alike (.file status contents) (.file status contents')

/-- The machines differ in nothing but the contents of such files. -/
structure Alike (m m' : Machine) : Prop where
  frame : m' = { m with entries := m'.entries }
  entries : ∀ p, Agree Entry.Alike (m.entry p) (m'.entry p)

namespace Alike

variable {m m' : Machine}

theorem checkFile_ne {status : FileStatus}
    (refused : status.type ≠ .regular ∨ status.owner ≠ 0 ∨ status.mode &&& 0o002 ≠ 0) :
    status.checkFile ≠ .ok () := by
  rw [Ne, FileStatus.checkFile_eq_ok_iff]
  intro passed
  obtain ⟨regular, root, closed⟩ := passed
  rcases refused with other | other | other
  · exact other regular
  · exact other root
  · exact other closed

theorem ofOpenFile_congr {file file' : OpenFile} (same : file.status = file'.status)
    (refused : ∀ status, file.status = .ok status → status.checkFile ≠ .ok ()) :
    Source.ofOpenFile file = Source.ofOpenFile file' := by
  unfold Source.ofOpenFile
  rw [← same]
  cases asked : file.status with
  | error error => rfl
  | ok status =>
    cases checked : status.checkFile with
    | error violation => simp only [checked]
    | ok => exact absurd checked (refused status asked)

theorem entry_cases (h : m.Alike m') (p : Path) :
    m.entry p = m'.entry p ∨ ∃ status contents contents', status.checkFile ≠ .ok () ∧
      m.entry p = .ok (.file status contents) ∧ m'.entry p = .ok (.file status contents') := by
  have entries := h.entries p
  generalize m.entry p = e at entries
  generalize m'.entry p = e' at entries
  cases entries with
  | error error => exact .inl rfl
  | ok alike =>
    cases alike with
    | same e => exact .inl rfl
    | untrusted refused => exact .inr ⟨_, _, _, checkFile_ne refused, rfl, rfl⟩

theorem source (h : m.Alike m') (p : Path) : Source.of m p = Source.of m' p := by
  have troubles : m'.troubles = m.troubles := by rw [h.frame]
  unfold Source.of Machine.openFile
  rw [troubles]
  rcases h.entry_cases p with same | ⟨status, contents, contents', refused, here, there⟩
  · rw [same]
  · rw [here, there]
    cases p.check with
    | error fault => rfl
    | ok =>
      -- both files are opened, and have the one status that is refused or none at all
      refine ofOpenFile_congr rfl ?_
      intro status' asked
      simp only [Entry.status] at asked
      split at asked
      · cases asked
      · cases asked
        exact refused

theorem shell (h : m.Alike m') (p : Path) :
    (m.entry p).map Entry.shell = (m'.entry p).map Entry.shell :=
  (h.entries p).map_eq fun e e' alike => by cases alike <;> rfl

theorem status (h : m.Alike m') (p : Path) : m.status p = m'.status p := status_congr (h.shell p)

theorem list (h : m.Alike m') (p : Path) : m.list p = m'.list p := by
  have errors : m'.listingErrors = m.listingErrors := by rw [h.frame]
  exact list_congr errors.symm (h.shell p)

theorem loading (h : m.Alike m') (sources : Sources) :
    Loading.run m sources = Loading.run m' sources :=
  Loading.run_congr h.source (h.status _) (h.list _)

end Alike

end Machine

end SubordinateIds
