import Mathlib.Data.List.Destutter
import SubordinateIds.Proofs.Configuration.Confinement
import SubordinateIds.Proofs.Configuration.Merge
import SubordinateIds.Proofs.Pairs

/-
  Listings — the names in a directory are a set

  A machine lists the names in a directory in an order of its own, and may list one of them
  twice. Neither counts. Names are gone through in ascending order, so two listings of the
  same names differ at most in repetitions that stand side by side; and a file that is
  gone through again right away gives the configuration that is there already.

  The second half is about settings alone. A setting overwrites what is at a key or leaves
  it, whatever stands there (`Overwrites`), so settings in a row do one of the two as well,
  and to do them again changes nothing more.
-/

namespace SubordinateIds

/-! ## Repetitions side by side -/

section Repetition

variable {α β γ : Type} [DecidableEq α] [DecidableEq β] {l l' : List α}

theorem head?_destutter' (a : α) (l : List α) : (l.destutter' (· ≠ ·) a).head? = some a := by
  induction l generalizing a with
  | nil => rfl
  | cons b l ih => by_cases other : a = b <;> simp [List.destutter', other, ih]

theorem destutter_cons_eq_ite (a : α) (l : List α) :
    (a :: l).destutter (· ≠ ·) =
      if (l.destutter (· ≠ ·)).head? = some a then l.destutter (· ≠ ·)
      else a :: l.destutter (· ≠ ·) := by
  cases l with
  | nil => rfl
  | cons b l =>
    rw [List.destutter_cons_cons, List.destutter_cons', head?_destutter']
    by_cases same : b = a
    · subst same
      simp
    · have other : a ≠ b := Ne.symm same
      simp [same, other]

theorem destutter_append_congr (same : l.destutter (· ≠ ·) = l'.destutter (· ≠ ·))
    (front : List α) :
    (front ++ l).destutter (· ≠ ·) = (front ++ l').destutter (· ≠ ·) := by
  induction front with
  | nil => exact same
  | cons a front ih =>
    rw [List.cons_append, List.cons_append, destutter_cons_eq_ite, destutter_cons_eq_ite, ih]

/-- A step that changes nothing more when it is done again can be done once. -/
theorem foldl_destutter {f : γ → α → γ} (again : ∀ c a, f (f c a) a = f c a) (l : List α)
    (c : γ) : (l.destutter (· ≠ ·)).foldl f c = l.foldl f c := by
  induction l generalizing c with
  | nil => rfl
  | cons a l ih =>
    cases l with
    | nil => rfl
    | cons b l =>
      rw [List.destutter_cons_cons]
      by_cases other : a ≠ b
      · rw [if_pos other, List.foldl_cons, List.foldl_cons]
        exact ih (f c a)
      · obtain rfl := not_not.mp other
        rw [if_neg other, List.foldl_cons, List.foldl_cons, again]
        exact ih c

/-- Lists in ascending order that have the same elements differ in repetitions only. -/
theorem destutter_eq_of_mem_iff {r : α → α → Prop} [Std.Antisymm r] (ordered : l.Pairwise r)
    (ordered' : l'.Pairwise r) (same : ∀ a, a ∈ l ↔ a ∈ l') :
    l.destutter (· ≠ ·) = l'.destutter (· ≠ ·) := by
  rw [ordered.destutter_eq_dedup, ordered'.destutter_eq_dedup]
  have perm : l.dedup.Perm l'.dedup := by
    rw [List.perm_ext_iff_of_nodup (List.nodup_dedup l) (List.nodup_dedup l')]
    simpa only [List.mem_dedup] using same
  exact perm.eq_of_pairwise (fun _ _ _ _ => Std.Antisymm.antisymm _ _)
    (ordered.sublist (List.dedup_sublist l)) (ordered'.sublist (List.dedup_sublist l'))

end Repetition

/-! ## Settings a second time -/

/-- The step puts one thing where the view looks, or leaves there what is there. -/
def Overwrites {γ β : Type} (view : γ → β) (step : γ → γ) : Prop :=
  (∃ b, ∀ c, view (step c) = b) ∨ ∀ c, view (step c) = view c

namespace Overwrites

variable {γ β α : Type} {view : γ → β} {step step' : γ → γ}

theorem comp (h : Overwrites view step) (h' : Overwrites view step') :
    Overwrites view fun c => step' (step c) := by
  rcases h' with ⟨b, put⟩ | left
  · exact .inl ⟨b, fun c => put (step c)⟩
  · rcases h with ⟨b, put⟩ | left'
    · exact .inl ⟨b, fun c => (left (step c)).trans (put c)⟩
    · exact .inr fun c => (left (step c)).trans (left' c)

theorem foldl {f : γ → α → γ} (each : ∀ a, Overwrites view (f · a)) (as : List α) :
    Overwrites view fun c => as.foldl f c := by
  induction as with
  | nil => exact .inr fun _ => rfl
  | cons a as ih => exact (each a).comp ih

theorem again (h : Overwrites view step) (c : γ) : view (step (step c)) = view (step c) := by
  rcases h with ⟨b, put⟩ | left
  · rw [put, put]
  · exact left (step c)

end Overwrites

namespace Configuration

theorem ext_values {c d : Configuration} (numbers : ∀ key, c.number key = d.number key)
    (switches : ∀ key, c.switch key = d.switch key) : c = d := by
  have pools (kind : Kind) : c.pool kind = d.pool kind := by
    have min := numbers (.poolMin kind)
    have max := numbers (.poolMax kind)
    have count := numbers (.poolCount kind)
    simp only [number] at min max count
    cases hc : c.pool kind
    cases hd : d.pool kind
    simp_all
  have user := pools .user
  have group := pools .group
  have lowest := numbers .uidMin
  have highest := numbers .uidMax
  have skip := switches .skipIfExists
  have wrap := switches .allowWrap
  cases c
  cases d
  simp_all [pool, number, switch]

theorem overwrites_number (key : NumberKey) (setting : Setting) :
    Overwrites (·.number key) (set · setting) := by
  cases setting with
  | number k n =>
    by_cases same : k = key
    · exact .inl ⟨n, fun c => by simp only [number_set, if_pos same]⟩
    · exact .inr fun c => by simp only [number_set, if_neg same]
  | switch => exact .inr fun c => by simp only [number_set]

theorem overwrites_switch (key : SwitchKey) (setting : Setting) :
    Overwrites (·.switch key) (set · setting) := by
  cases setting with
  | number => exact .inr fun c => by simp only [switch_set]
  | switch k position =>
    by_cases same : k = key
    · cases position with
      | none => exact .inr fun c => by simp only [switch_set, Option.getD_none, ite_self]
      | some on => exact .inl ⟨on, fun c => by simp only [switch_set, if_pos same, Option.getD_some]⟩
    · exact .inr fun c => by simp only [switch_set, if_neg same]

theorem setAll_append (c : Configuration) (settings settings' : List Setting) :
    c.setAll (settings ++ settings') = (c.setAll settings).setAll settings' :=
  List.foldl_append

theorem setAll_setAll (c : Configuration) (settings : List Setting) :
    (c.setAll settings).setAll settings = c.setAll settings := by
  refine ext_values ?_ ?_
  · intro key
    exact (Overwrites.foldl (overwrites_number key) settings).again c
  · intro key
    exact (Overwrites.foldl (overwrites_switch key) settings).again c

end Configuration

/-! ## Machines that list the same names -/

namespace Machine

/-- The entries are the same, but for the order of the names in a directory and how often
each of them is listed. -/
inductive Entry.Relisted : Entry → Entry → Prop where
  | same (e : Entry) : Relisted e e
  | directory {status : FileStatus} {names names' : List Octets}
      (members : ∀ name, name ∈ names ↔ name ∈ names') :
      Relisted (.directory status names) (.directory status names')

/-- The machines differ in nothing but the listings of directories, and there not in the
names. -/
structure Relisted (m m' : Machine) : Prop where
  frame : m' = { m with entries := m'.entries }
  entries : ∀ p, Agree Entry.Relisted (m.entry p) (m'.entry p)

namespace Relisted

variable {m m' : Machine}

theorem status (h : m.Relisted m') (p : Path) : m.status p = m'.status p := by
  have entries := h.entries p
  unfold Machine.status
  generalize m.entry p = e at entries
  generalize m'.entry p = e' at entries
  cases entries with
  | error error => rfl
  | ok relisted => cases relisted <;> rfl

theorem openFile (h : m.Relisted m') (p : Path) : m.openFile p = m'.openFile p := by
  have entries := h.entries p
  have troubles : m'.troubles = m.troubles := by rw [h.frame]
  unfold Machine.openFile
  rw [troubles]
  generalize m.entry p = e at entries
  generalize m'.entry p = e' at entries
  cases entries with
  | error error => rfl
  | ok relisted => cases relisted <;> rfl

theorem ofFile (h : m.Relisted m') : Yield.ofFile m = Yield.ofFile m' := by
  funext p
  rw [Yield.ofFile, Yield.ofFile, Source.of, Source.of, h.openFile]

theorem list (h : m.Relisted m') (p : Path) :
    Agree (fun names names' => ∀ name, name ∈ names ↔ name ∈ names') (m.list p) (m'.list p) := by
  have entries := h.entries p
  have errors : m'.listingErrors = m.listingErrors := by rw [h.frame]
  unfold Machine.list
  rw [errors]
  cases m.listingErrors.get? p with
  | some error => exact .error error
  | none =>
    generalize m.entry p = e at entries
    generalize m'.entry p = e' at entries
    cases entries with
    | error error => exact .error error
    | ok relisted =>
      cases relisted with
      | same =>
        rename_i e
        cases e with
        | file => exact .error SystemError.notADirectory
        | directory status names => exact .ok fun _ => Iff.rfl
      | directory members => exact .ok members

theorem list_eq_error_iff (h : m.Relisted m') (p : Path) {error : SystemError} :
    m'.list p = .error error ↔ m.list p = .error error := by
  have lists := h.list p
  generalize m.list p = r at lists
  generalize m'.list p = r' at lists
  cases lists with
  | error error' => exact Iff.rfl
  | ok members => simp

theorem exists_list (h : m.Relisted m') (p : Path) (name : Octets) :
    (∃ listed, m.list p = .ok listed ∧ name ∈ listed) ↔
      ∃ listed, m'.list p = .ok listed ∧ name ∈ listed := by
  have lists := h.list p
  generalize m.list p = r at lists
  generalize m'.list p = r' at lists
  cases lists with
  | error error' => simp
  | ok members => simp [members name]

end Relisted

end Machine

namespace Loading

variable {m m' : Machine} {sources : Sources} {directory : Path} {names names' : List Octets}

theorem stops_relisted (h : m.Relisted m') {fault : Fault} :
    Stops m' directory fault ↔ Stops m directory fault := by
  constructor
  · intro stops
    exact stops.of_same (h.status _) fun error => (h.list_eq_error_iff _).symm
  · intro stops
    exact stops.of_same (h.status _).symm fun error => h.list_eq_error_iff _

theorem admitted_relisted (h : m.Relisted m') {name : Octets} :
    Fragment.Admitted m' directory name ↔ Fragment.Admitted m directory name := by
  constructor
  · intro a
    exact { a with
      trusted := by rw [h.status]; exact a.trusted
      listed := (h.exists_list _ _).mpr a.listed }
  · intro a
    exact { a with
      trusted := by rw [← h.status]; exact a.trusted
      listed := (h.exists_list _ _).mp a.listed }

theorem fragments_relisted (h : m.Relisted m') (fragments : Fragments m directory names)
    (fragments' : Fragments m' directory names') :
    names.destutter (· ≠ ·) = names'.destutter (· ≠ ·) := by
  refine destutter_eq_of_mem_iff fragments.1 fragments'.1 ?_
  intro name
  have listed := h.exists_list directory name
  simp only [fragments.mem_iff, fragments'.mem_iff, ← and_assoc, exists_and_right] at listed ⊢
  rw [listed]

theorem setAll_entries (m : Machine) (directory : Path) (names : List Octets)
    (c : Configuration) :
    c.setAll ((names.map directory.child).flatMap fun p => (Yield.ofFile m p).settings) =
      (names.destutter (· ≠ ·)).foldl
        (fun c name => c.setAll (Yield.ofFile m (directory.child name)).settings) c := by
  rw [foldl_destutter (fun c name => c.setAll_setAll _), Configuration.setAll,
    List.foldl_flatMap, List.foldl_map]
  rfl

theorem result_relisted (h : m.Relisted m') :
    (run m sources).result = (run m' sources).result := by
  by_cases stops : ∃ fault, Stops m sources.directory fault
  · obtain ⟨fault, stops⟩ := stops
    rw [run_result_eq_error_iff.mpr stops,
      run_result_eq_error_iff.mpr ((stops_relisted h).mpr stops)]
  · have clear := not_exists.mp stops
    have clear' : ∀ fault, ¬Stops m' sources.directory fault := by
      intro fault stops'
      exact clear fault ((stops_relisted h).mp stops')
    obtain ⟨names, y, fragments, sums, result, -⟩ := run_of_clear clear
    obtain ⟨names', y', fragments', sums', result', -⟩ := run_of_clear clear'
    rw [result, result', sums.settings, sums'.settings, h.ofFile, List.flatMap_append,
      List.flatMap_append, Configuration.setAll_append, Configuration.setAll_append,
      setAll_entries, setAll_entries, fragments_relisted h fragments fragments']

theorem opened_relisted (h : m.Relisted m') :
    (run m sources).opened.destutter (· ≠ ·) = (run m' sources).opened.destutter (· ≠ ·) := by
  obtain ⟨names, opened, ordered, admitted⟩ := run_opened m sources
  obtain ⟨names', opened', ordered', admitted'⟩ := run_opened m' sources
  have same : names.destutter (· ≠ ·) = names'.destutter (· ≠ ·) := by
    refine destutter_eq_of_mem_iff ordered ordered' ?_
    intro name
    rw [admitted, admitted', admitted_relisted h]
  rw [opened, opened']
  refine destutter_append_congr ?_ _
  rw [← List.map_destutter_ne names (Path.child_injective _),
    ← List.map_destutter_ne names' (Path.child_injective _), same]

end Loading

namespace Session

/-- The names in a directory count as a set. On machines that list the same names, in
whatever order and however often, loading gives the same configuration or fails in the same
way, and the paths that are opened are the same, once repetitions side by side are taken
out. For to go through a file a second time right away changes nothing more. -/
theorem load_relisted (s : Session) (m : Machine) (sources : Sources)
    (relisted : s.machine.Relisted m) :
    ((Session.load sources).run s).1 = ((Session.load sources).run { s with machine := m }).1 ∧
      ((Session.load sources).run s).2.opened.toList.destutter (· ≠ ·) =
        ((Session.load sources).run { s with machine := m }).2.opened.toList.destutter (· ≠ ·) ∧
      ∀ (c : Configuration) (p : Path),
        (c.setAll (Yield.ofFile s.machine p).settings).setAll (Yield.ofFile s.machine p).settings =
          c.setAll (Yield.ofFile s.machine p).settings := by
  refine ⟨Loading.result_relisted relisted, ?_, fun c p => c.setAll_setAll _⟩
  simp only [Act.run_load, Session.loaded, Array.toList_append]
  exact destutter_append_congr (Loading.opened_relisted relisted) _

/-- A machine with two fragments, the second of which takes back what the first one says of
the lowest user id. -/
def rack (names : List String) : Machine := { Machine.empty with
  entries := .ofList [
    (Sources.standard.directory,
      .ok (.directory (.of .directory 0 0o755) (names.map (Utf8.encode ·.toList)))),
    (.ofString "/etc/static-subid.conf.d/a.conf", .ok (.file (.of .regular 0 0o644)
      (Utf8.encode "UID_MIN 500\nUID_MAX 70000\nSUB_UID_COUNT 99999999".toList))),
    (.ofString "/etc/static-subid.conf.d/b.conf", .ok (.file (.of .regular 0 0o644)
      (Utf8.encode "UID_MIN 1500\nALLOW_SUBID_WRAP maybe".toList)))] }

theorem relisted_rack {names names' : List String} (members : ∀ name, name ∈ names ↔ name ∈ names') :
    (rack names).Relisted (rack names') where
  frame := rfl
  entries p := by
    simp only [Machine.entry, rack, PathMap.ofList, List.foldl_cons, List.foldl_nil,
      PathMap.get?_insert, PathMap.get?_empty]
    split_ifs
    · exact .ok (.same _)
    · exact .ok (.same _)
    · exact .ok (.directory fun name => by simp only [List.mem_map, members])
    · exact .error _

/-- What the two fragments come to. Sorting does not unfold in the kernel, so the names are
put in order before the rest is computed. -/
theorem run_rack :
    (Loading.run (rack ["a.conf", "b.conf"]) .standard).result =
        .ok { Configuration.default with uidMin := 1500, uidMax := 70000 } ∧
      (Loading.run (rack ["a.conf", "b.conf"]) .standard).opened =
        [.ofString "/etc/login.defs", .ofString "/etc/static-subid.conf",
          .ofString "/etc/static-subid.conf.d/a.conf",
          .ofString "/etc/static-subid.conf.d/b.conf"] := by
  have sorted : Loading.fragmentNames (["a.conf", "b.conf"].map (Utf8.encode ·.toList)) =
      ["a.conf", "b.conf"].map (Utf8.encode ·.toList) :=
    List.mergeSort_of_pairwise (by decide +kernel)
  have directory : Loading.fromDirectory (rack ["a.conf", "b.conf"]) Sources.standard.directory =
      (.ok (Loading.listed (rack ["a.conf", "b.conf"]) Sources.standard.directory
        (["a.conf", "b.conf"].map (Utf8.encode ·.toList))), [.debug "config_dir_scan"
        s!"scanning config directory: {Sources.standard.directory.display}"]) := rfl
  simp only [Loading.run, directory, Loading.listed, sorted]
  decide +kernel

/-- Listed backwards and with one of them twice, the fragments come to the same. -/
theorem load_relisted_rack :
    (rack ["b.conf", "a.conf", "b.conf"]).Relisted (rack ["a.conf", "b.conf"]) ∧
      ((Session.load .standard).run (.start (rack ["b.conf", "a.conf", "b.conf"]) false)).1 =
        .ok { Configuration.default with uidMin := 1500, uidMax := 70000 } ∧
      ((Session.load .standard).run
          (.start (rack ["b.conf", "a.conf", "b.conf"]) false)).2.opened.toList.destutter (· ≠ ·) =
        [.ofString "/etc/login.defs", .ofString "/etc/static-subid.conf",
          .ofString "/etc/static-subid.conf.d/a.conf",
          .ofString "/etc/static-subid.conf.d/b.conf"] := by
  have relisted : (rack ["b.conf", "a.conf", "b.conf"]).Relisted (rack ["a.conf", "b.conf"]) :=
    relisted_rack (by simp)
  obtain ⟨loaded, passed⟩ := run_rack
  obtain ⟨result, opened, -⟩ :=
    load_relisted (.start (rack ["b.conf", "a.conf", "b.conf"]) false) (rack ["a.conf", "b.conf"])
      .standard relisted
  refine ⟨relisted, result.trans ?_, opened.trans ?_⟩
  · rw [Act.run_load]
    exact loaded
  · simp only [Act.run_load, Session.loaded, Session.start, passed]
    decide +kernel

end Session

end SubordinateIds
