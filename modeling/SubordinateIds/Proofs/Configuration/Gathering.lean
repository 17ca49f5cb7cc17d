import SubordinateIds.Proofs.Configuration.Directory
import SubordinateIds.Proofs.Configuration.Source
import SubordinateIds.Proofs.Octets
import SubordinateIds.Proofs.Text.Utf8

/-
  Gathering — what the sources give, one after the other

  Loading goes through files and fragments, and what it has at the end is what each of them
  gives, in order: settings, opened paths and problems. `Yield.Sums` says this of a yield
  and the paths that were gone through. It holds of one file, and it is kept when yields are
  put together, so it holds of all files and of all fragments of a directory. The trace is
  not counted: a directory and its fragments add events of their own to it.

  `Fragments` says which names of the directory count and in which order. If the directory
  stops the loading, the files were gone through (`run_of_stops`); if not, the files and
  the fragments (`run_of_clear`).
-/

namespace SubordinateIds

/-- The events that are kept when the trace is not. -/
def Event.problems (events : List Event) : List Event :=
  events.filter fun e => Journal.Filter.problems.admits e.level

namespace Event

variable {label message : String} {es : List Event}

@[simp] theorem problems_nil : problems [] = [] := rfl

@[simp] theorem problems_debug_cons :
    problems (.debug label message :: es) = problems es := rfl

@[simp] theorem problems_error_cons :
    problems (.error label message :: es) = .error label message :: problems es := rfl

@[simp] theorem problems_append (es es' : List Event) :
    problems (es ++ es') = problems es ++ problems es' := List.filter_append ..

@[simp] theorem problems_trace (c : Configuration) : problems (Loading.trace c) = [] :=
  List.filter_eq_nil_iff.mpr fun e mem => by
    obtain ⟨key, -, rfl⟩ := List.mem_map.mp mem
    simp [Event.debug, Journal.Filter.admits]

end Event

/-! ## What a yield sums up to -/

/-- The yield is what the files at the paths give, one after the other: their settings, the
paths of them that were opened, and their problems. -/
structure Yield.Sums (y : Yield) (m : Machine) (ps : List Path) : Prop where
  settings : y.settings = ps.flatMap fun p => (Yield.ofFile m p).settings
  opened : y.opened = ps.filter (·.check.isOk)
  problems : Event.problems y.events = ps.flatMap fun p => Event.problems (Yield.ofFile m p).events

namespace Yield.Sums

variable {m : Machine} {y z : Yield} {ps qs : List Path}

theorem ofFile (m : Machine) (p : Path) : (Yield.ofFile m p).Sums m [p] where
  settings := by simp
  opened := by
    rw [Loading.opened_ofFile, List.filter_cons, List.filter_nil]
  problems := by simp

theorem ofEvents {events : List Event} (trace : Event.problems events = []) :
    (Yield.ofEvents events).Sums m [] := ⟨rfl, rfl, trace⟩

theorem append (h : y.Sums m ps) (h' : z.Sums m qs) : (y.append z).Sums m (ps ++ qs) where
  settings := by rw [Yield.append, h.settings, h'.settings, List.flatMap_append]
  opened := by rw [Yield.append, h.opened, h'.opened, List.filter_append]
  problems := by
    rw [Yield.append, Event.problems_append, h.problems, h'.problems, List.flatMap_append]

theorem join {ι : Type} {f : ι → Yield} {g : ι → Path} {is : List ι}
    (each : ∀ i ∈ is, (f i).Sums m [g i]) : (Yield.join (is.map f)).Sums m (is.map g) := by
  induction is with
  | nil => exact ⟨rfl, rfl, rfl⟩
  | cons i is ih =>
    obtain ⟨first, others⟩ := List.forall_mem_cons.mp each
    exact first.append (ih others)

end Yield.Sums

/-! ## The names in the directory -/

/-- The names in the directory that are text and a fragment's, in ascending order. If the
directory cannot be listed there are none. -/
def Fragments (m : Machine) (directory : Path) (names : List Octets) : Prop :=
  names.Pairwise (· ≤ ·) ∧
    match m.list directory with
    | .error _ => names = []
    | .ok listed => ∃ others, (names ++ others).Perm listed ∧
      (∀ name ∈ names, (∃ cs, Utf8.encode cs = name) ∧ Fragment.isName name = true) ∧
      ∀ name ∈ others, ¬((∃ cs, Utf8.encode cs = name) ∧ Fragment.isName name = true)

theorem Fragment.hazard?_of_isName {name : Octets} (fragment : isName name = true) :
    hazard? name = none := by
  simp only [isName, Bool.and_eq_true, bne_iff_ne, Bool.not_eq_true'] at fragment
  obtain ⟨⟨⟨shown, flat⟩, -⟩, -⟩ := fragment
  have inside : ([dot, dot].isPrefixOf name) = false := by
    cases name with
    | nil => rfl
    | cons b bs =>
      have other : (dot == b) = false := by
        rw [beq_eq_false_iff_ne]
        intro same
        subst same
        exact shown rfl
      rw [List.isPrefixOf, other, Bool.false_and]
  rw [hazard?, if_neg (by rw [flat]; simp), if_neg (by rw [inside]; simp)]

namespace Loading

variable {m : Machine} {directory : Path} {listed names : List Octets}

theorem exists_encode_iff {name : Octets} :
    (∃ cs, Utf8.encode cs = name) ↔ (Utf8.decode? name).isSome = true := by
  simp only [← Utf8.decode?_eq_some_iff, Option.isSome_iff_exists]

theorem fragments_fragmentNames (list : m.list directory = .ok listed) :
    Fragments m directory (fragmentNames listed) := by
  refine ⟨Octets.pairwise_mergeSort _, ?_⟩
  rw [list]
  refine ⟨listed.filter fun name => !((Utf8.decode? name).isSome && Fragment.isName name), ?_, ?_, ?_⟩
  · exact ((List.mergeSort_perm _ _).append_right _).trans (List.filter_append_perm _ _)
  · intro name mem
    rw [exists_encode_iff, ← Bool.and_eq_true]
    exact (List.mem_filter.mp (List.mem_mergeSort.mp mem)).2
  · intro name mem
    rw [exists_encode_iff, ← Bool.and_eq_true, Bool.not_eq_true, ← Bool.not_eq_true']
    exact (List.mem_filter.mp mem).2

end Loading

namespace Fragments

variable {m : Machine} {directory : Path} {listed names : List Octets}

theorem mem_iff (h : Fragments m directory names) {name : Octets} :
    name ∈ names ↔ ∃ listed, m.list directory = .ok listed ∧ name ∈ listed ∧
      (∃ cs, Utf8.encode cs = name) ∧ Fragment.isName name = true := by
  obtain ⟨-, matched⟩ := h
  cases list : m.list directory with
  | error error =>
    rw [list] at matched
    simp only at matched
    simp [matched]
  | ok listed =>
    rw [list] at matched
    obtain ⟨others, perm, good, bad⟩ := matched
    simp only [Except.ok.injEq, exists_eq_left', ← perm.mem_iff, List.mem_append]
    constructor
    · intro mem
      exact ⟨.inl mem, good name mem⟩
    · intro h
      obtain ⟨mem | mem, fragment⟩ := h
      · exact mem
      · exact absurd fragment (bad name mem)

end Fragments

namespace Loading

variable {m : Machine} {directory : Path} {sources : Sources} {listed names : List Octets}

theorem sums_fragment {name : Octets} (isName : Fragment.isName name = true) :
    (fragment m directory name).Sums m [directory.child name] := by
  unfold fragment
  rw [Fragment.hazard?_of_isName isName]
  -- the path is checked here and again where its file is taken
  cases valid : (directory.child name).check with
  | error fault =>
    have refused : Source.of m (directory.child name) = .badPath fault := by
      rw [Source.of, valid]
    have same : Yield.ofFile m (directory.child name) =
        .ofEvents [Source.badPathEvent fault] := by
      rw [Yield.ofFile, refused]
      rfl
    simp only [valid, ← same]
    exact .ofFile m _
  | ok =>
    simp only [valid]
    exact (Yield.Sums.ofEvents rfl).append (.ofFile m _)

theorem sums_listed (m : Machine) (directory : Path) (listed : List Octets) :
    (Loading.listed m directory listed).Sums m
      ((fragmentNames listed).map directory.child) := by
  have rejected : Event.problems (nameEvents listed) = [] := by
    refine List.filter_eq_nil_iff.mpr fun e mem => ?_
    obtain ⟨name, -, rfl⟩ := List.mem_map.mp mem
    simp [Event.debug, Journal.Filter.admits]
  refine (Yield.Sums.ofEvents ?_).append (.join ?_)
  · rw [Event.problems_append, rejected]
    split <;> rfl
  · intro name mem
    have both := (List.mem_filter.mp (List.mem_mergeSort.mp mem)).2
    rw [Bool.and_eq_true] at both
    exact sums_fragment both.2

theorem list_of_status_error {error : SystemError}
    (unseen : m.status directory = .error error) : ∃ error', m.list directory = .error error' := by
  unfold Machine.list
  split
  · exact ⟨_, rfl⟩
  · cases found : m.entry directory with
    | error error' => exact ⟨error', rfl⟩
    | ok entry =>
      unfold Machine.status at unseen
      rw [found] at unseen
      cases unseen

/-- A directory that does not stop the loading gives what its fragments give, and nothing
but a trace comes before that. -/
theorem sums_fromDirectory {yield : Yield} {events : List Event}
    (given : fromDirectory m directory = (.ok yield, events)) :
    Event.problems events = [] ∧
      ∃ names, Fragments m directory names ∧ yield.Sums m (names.map directory.child) := by
  have unlisted {error : SystemError} (list : m.list directory = .error error) :
      Fragments m directory [] ∧ Yield.empty.Sums m (List.map directory.child []) :=
    ⟨⟨.nil, by rw [list]⟩, .ofEvents rfl⟩
  unfold fromDirectory at given
  split at given
  · cases given
  · split at given
    · rename_i unseen
      cases given
      obtain ⟨error, list⟩ := list_of_status_error unseen
      exact ⟨rfl, [], unlisted list⟩
    · cases given
    · split at given
      · cases given
      · unfold scanned at given
        split at given
        · rename_i list
          cases given
          exact ⟨rfl, [], unlisted list⟩
        · cases given
        · rename_i listed list
          cases given
          exact ⟨rfl, _, fragments_fragmentNames list, sums_listed m directory listed⟩

theorem sums_fromFiles (m : Machine) (files : List Path) : (fromFiles m files).Sums m files := by
  have each : (fromFiles m files).Sums m (files.map id) := .join fun p _ => .ofFile m p
  rwa [List.map_id] at each

/-- The problem that is reported when the directory stops the loading: only that it is not
trusted is reported, the other faults are just given. -/
def Fault.problems : Fault → List Event
  | .untrustedDirectory directory violation =>
    [.error "config_dir_insecure"
      s!"config directory {directory.display} is insecure: {violation.message}"]
  | _ => []

theorem fromDirectory_of_stops {fault : Fault} (stops : Stops m directory fault) :
    ∃ events, fromDirectory m directory = (.error fault, events) ∧
      Event.problems events = fault.problems := by
  unfold fromDirectory
  cases stops with
  | badPath invalid =>
    simp only [invalid]
    exact ⟨_, rfl, rfl⟩
  | noStatus valid unseen there =>
    simp only [valid, unseen]
    exact ⟨_, rfl, rfl⟩
  | untrusted valid seen refused =>
    simp only [valid, seen, refused]
    exact ⟨_, rfl, rfl⟩
  | notListed valid seen trusted unlisted there =>
    simp only [valid, seen, trusted, scanned, unlisted]
    exact ⟨_, rfl, rfl⟩

theorem run_of_stops {fault : Fault} (stops : Stops m sources.directory fault) :
    ∃ y : Yield, y.Sums m sources.files ∧ (run m sources).result = .error fault ∧
      (run m sources).opened = y.opened ∧
      Event.problems (run m sources).events = Event.problems y.events ++ fault.problems := by
  obtain ⟨events, directory, told⟩ := fromDirectory_of_stops stops
  refine ⟨_, sums_fromFiles m sources.files, ?_⟩
  simp [run, directory, told]

theorem run_of_clear (clear : ∀ fault, ¬Stops m sources.directory fault) :
    ∃ (names : List Octets) (y : Yield), Fragments m sources.directory names ∧
      y.Sums m (sources.files ++ names.map sources.directory.child) ∧
      (run m sources).result = .ok (Configuration.default.setAll y.settings) ∧
      (run m sources).opened = y.opened ∧
      Event.problems (run m sources).events = Event.problems y.events := by
  rcases directory : fromDirectory m sources.directory with ⟨fault | yield, events⟩
  · have stopped : (fromDirectory m sources.directory).1 = .error fault := by rw [directory]
    exact absurd (fromDirectory_eq_error_iff.mp stopped) (clear fault)
  · obtain ⟨quiet, names, fragments, sums⟩ := sums_fromDirectory directory
    refine ⟨names, _, fragments, (sums_fromFiles m sources.files).append sums, ?_⟩
    simp [run, directory, quiet, Yield.append]

/-- A configuration that was loaded comes of the settings of the files and the fragments. -/
theorem sums_of_loaded {c : Configuration} (loaded : (run m sources).result = .ok c) :
    ∃ (names : List Octets) (y : Yield), Fragments m sources.directory names ∧
      y.Sums m (sources.files ++ names.map sources.directory.child) ∧
      c = Configuration.default.setAll y.settings := by
  have clear : ∀ fault, ¬Stops m sources.directory fault := by
    intro fault stops
    rw [run_result_eq_error_iff.mpr stops] at loaded
    cases loaded
  obtain ⟨names, y, fragments, sums, result, -⟩ := run_of_clear clear
  rw [result, Except.ok.injEq] at loaded
  exact ⟨names, y, fragments, sums, loaded.symm⟩

end Loading

end SubordinateIds
