import SubordinateIds.Proofs.Configuration.Gathering
import SubordinateIds.Proofs.Path.Child

/-
  Confinement — nothing is opened outside the sources

  The names in a directory are whatever the machine says they are: they may climb, hide,
  hold slashes or be no text at all. `Fragment.Admitted` says what is known of a name when
  its entry is opened. The last of its fields is the point of the others: as the name holds
  no slash and does not begin with a dot, the path of the entry is the place of the
  directory and one more name, however the directory is spelled.

  So each path that is opened is a file of the sources or such an entry (`load_confined`).
-/

namespace SubordinateIds

namespace Fragment

variable {name : Octets}

theorem isName_iff :
    isName name = true ↔ name.head? ≠ some 0x2e ∧ 0x2f ∉ name ∧
      ∃ stem, stem ≠ [] ∧ name = stem ++ Utf8.encode ".conf".toList := by
  have spelled : Utf8.encode ".conf".toList = ending := by decide
  have marks : dot = 0x2e ∧ separator = 0x2f := by decide
  rw [spelled, ← marks.1, ← marks.2]
  simp only [isName, Bool.and_eq_true, bne_iff_ne, Bool.not_eq_true', List.contains_eq_mem,
    decide_eq_false_iff_not, decide_eq_true_eq, List.isSuffixOf_iff_suffix, and_assoc]
  refine and_congr_right fun _ => and_congr_right fun _ => ?_
  constructor
  · intro h
    obtain ⟨long, stem, rfl⟩ := h
    refine ⟨stem, ?_, rfl⟩
    rintro rfl
    exact Nat.lt_irrefl _ long
  · intro h
    obtain ⟨stem, filled, rfl⟩ := h
    refine ⟨?_, List.suffix_append ..⟩
    have some := List.length_pos_iff.mpr filled
    simp only [List.length_append]
    omega

/-- What is known of a name when its entry in the directory is opened: the directory is
trusted and the name is in it, the name is that of a fragment, and its path is valid and
leads to one place below the directory. -/
structure Admitted (m : Machine) (directory : Path) (name : Octets) : Prop where
  reached : directory.check = .ok ()
  trusted : ∃ status, m.status directory = .ok status ∧ status.checkDirectory = .ok ()
  listed : ∃ listed, m.list directory = .ok listed ∧ name ∈ listed
  text : ∃ cs, Utf8.encode cs = name
  shown : name.head? ≠ some 0x2e
  flat : 0x2f ∉ name
  ending : ∃ stem, stem ≠ [] ∧ name = stem ++ Utf8.encode ".conf".toList
  valid : (directory.child name).check = .ok ()
  below : (directory.child name).components = directory.components ++ [.name name]

end Fragment

namespace Loading

variable {m : Machine} {directory : Path} {sources : Sources} {listed names : List Octets}

theorem trusted_of_clear (clear : ∀ fault, ¬Stops m directory fault)
    (list : m.list directory = .ok listed) :
    directory.check = .ok () ∧
      ∃ status, m.status directory = .ok status ∧ status.checkDirectory = .ok () := by
  cases valid : directory.check with
  | error fault => exact absurd (.badPath valid) (clear _)
  | ok =>
    cases seen : m.status directory with
    | error error =>
      obtain ⟨error', unlisted⟩ := list_of_status_error seen
      rw [list] at unlisted
      cases unlisted
    | ok status =>
      cases checked : status.checkDirectory with
      | error violation => exact absurd (.untrusted valid seen checked) (clear _)
      | ok => exact ⟨rfl, status, rfl, checked⟩

theorem not_stops_of_admitted {name : Octets} (h : Fragment.Admitted m directory name)
    (fault : Fault) : ¬Stops m directory fault := by
  intro stops
  obtain ⟨status, seen, checked⟩ := h.trusted
  obtain ⟨listed, list, -⟩ := h.listed
  cases stops with
  | badPath invalid => simp [h.reached] at invalid
  | noStatus valid unseen there => simp [seen] at unseen
  | untrusted valid seen' refused =>
    rw [seen] at seen'
    cases seen'
    simp [checked] at refused
  | notListed valid seen' trusted unlisted there => simp [list] at unlisted

theorem admitted_iff (clear : ∀ fault, ¬Stops m directory fault)
    (fragments : Fragments m directory names) {name : Octets} :
    Fragment.Admitted m directory name ↔
      name ∈ names ∧ (directory.child name).check = .ok () := by
  constructor
  · intro h
    obtain ⟨listed, list, within⟩ := h.listed
    have isName := Fragment.isName_iff.mpr ⟨h.shown, h.flat, h.ending⟩
    exact ⟨fragments.mem_iff.mpr ⟨listed, list, within, h.text, isName⟩, h.valid⟩
  · intro h
    obtain ⟨mem, valid⟩ := h
    obtain ⟨listed, list, within, text, isName⟩ := fragments.mem_iff.mp mem
    obtain ⟨reached, trusted⟩ := trusted_of_clear clear list
    obtain ⟨shown, flat, ending⟩ := Fragment.isName_iff.mp isName
    have named : name ≠ [] := by
      obtain ⟨stem, filled, rfl⟩ := ending
      exact List.append_ne_nil_of_left_ne_nil filled _
    have absolute := Path.isAbsolute_of_check reached
    exact { reached, trusted, listed := ⟨listed, list, within⟩, text, shown, flat, ending, valid
            below := Path.components_child absolute flat named shown }

/-- The paths that loading opens: those of the files that are valid, then those of the
admitted entries of the directory in the order of their names. -/
theorem run_opened (m : Machine) (sources : Sources) :
    ∃ names : List Octets,
      (run m sources).opened =
        sources.files.filter (·.check.isOk) ++ names.map sources.directory.child ∧
      names.Pairwise (· ≤ ·) ∧
      ∀ name, name ∈ names ↔ Fragment.Admitted m sources.directory name := by
  by_cases stops : ∃ fault, Stops m sources.directory fault
  · obtain ⟨fault, stops⟩ := stops
    obtain ⟨y, sums, -, opened, -⟩ := run_of_stops stops
    refine ⟨[], ?_, .nil, ?_⟩
    · rw [opened, sums.opened, List.map_nil, List.append_nil]
    · intro name
      simp only [List.not_mem_nil, false_iff]
      intro admitted
      exact not_stops_of_admitted admitted fault stops
  · have clear := not_exists.mp stops
    obtain ⟨names, y, fragments, sums, -, opened, -⟩ := run_of_clear clear
    refine ⟨names.filter fun name => (sources.directory.child name).check.isOk, ?_, ?_, ?_⟩
    · rw [opened, sums.opened, List.filter_append, List.filter_map]
      rfl
    · exact fragments.1.filter _
    · intro name
      rw [admitted_iff clear fragments, List.mem_filter, Path.check_isOk_iff]

end Loading

namespace Session

/-- Nothing is opened outside the sources: first those of the files are opened whose paths
are valid, then the admitted entries of the directory, in the order of their names. An entry
is admitted if the directory is trusted and lists its name, the name is a fragment's, and
the path is valid; it lies one place below the directory. No name that is a fragment's is a
hazard. -/
theorem load_confined (s : Session) (sources : Sources) :
    (∃ names : List Octets,
      ((Session.load sources).run s).2.opened.toList =
        s.opened.toList ++ sources.files.filter (·.check.isOk) ++
          names.map sources.directory.child ∧
      names.Pairwise (· ≤ ·) ∧
      ∀ name, name ∈ names ↔ Fragment.Admitted s.machine sources.directory name) ∧
    ∀ name, Fragment.isName name = true → Fragment.hazard? name = none := by
  refine ⟨?_, fun name => Fragment.hazard?_of_isName⟩
  obtain ⟨names, opened, ordered, admitted⟩ := Loading.run_opened s.machine sources
  refine ⟨names, ?_, ordered, admitted⟩
  rw [Act.run_load, Session.loaded, Array.toList_append, opened, List.append_assoc]

end Session

end SubordinateIds
