import SubordinateIds.Configuration.Source

/-
  Sources — which files are taken, and with what in them

  `Trusted` lists everything that must hold of a path for its file to be taken, and what
  is in the file then. A file is taken exactly if it is trusted, and with all that is in
  it (`of_eq_taken_iff`): reading asks for one octet more than the limit, so it sees a
  failure up to the end of the file and a file that goes on beyond the limit.
-/

namespace SubordinateIds

namespace OpenFile

variable {f : OpenFile} {limit count : Nat} {left got out : Octets}

/-- Reading on gives the octets that are left, as many as were asked for, if no failure is
met at an octet that is asked for or at the end. -/
theorem readFrom_eq_ok_iff :
    f.readFrom limit count left got = .ok out ↔
      out = got.reverse ++ left.take limit ∧
        ∀ n, count ≤ n → n < count + limit → n ≤ count + left.length → f.troubleAt? n = none := by
  induction limit generalizing count left got with
  | zero =>
    simp only [readFrom, Except.ok.injEq, List.take_zero, List.append_nil]
    constructor
    · intro same
      subst same
      exact ⟨rfl, by omega⟩
    · intro h
      obtain ⟨rfl, -⟩ := h
      rfl
  | succ limit ih =>
    cases now : f.troubleAt? count with
    | some error =>
      simp only [readFrom, now, reduceCtorEq, false_iff]
      intro h
      obtain ⟨-, clear⟩ := h
      rw [clear count (Nat.le_refl _) (by omega) (by omega)] at now
      cases now
    | none =>
      cases left with
      | nil =>
        simp only [readFrom, now, Except.ok.injEq, List.take_nil, List.append_nil]
        constructor
        · intro same
          subst same
          refine ⟨rfl, ?_⟩
          intro n low _ high
          -- at the end only one place is left where reading could fail
          have here : n = count := by simpa using Nat.le_antisymm high low
          rw [here, now]
        · intro h
          obtain ⟨rfl, -⟩ := h
          rfl
      | cons b left =>
        simp only [readFrom, now, ih, List.reverse_cons, List.append_assoc,
          List.singleton_append, List.take_succ_cons, List.length_cons]
        refine and_congr_right fun _ => ⟨?_, ?_⟩
        · intro clear n low more high
          by_cases here : n = count
          · rw [here, now]
          · exact clear n (by omega) (by omega) (by omega)
        · intro clear n low more high
          exact clear n (by omega) (by omega) (by omega)

theorem read_eq_ok_iff (small : f.contents.length < limit) :
    f.read limit = .ok out ↔
      out = f.contents ∧ ∀ n e, f.readTrouble = some (n, e) → f.contents.length < n := by
  rw [read, readFrom_eq_ok_iff, List.take_of_length_le (Nat.le_of_lt small)]
  simp only [List.reverse_nil, List.nil_append, Nat.zero_le, Nat.zero_add, true_implies]
  refine and_congr_right fun _ => ⟨?_, ?_⟩
  · intro clear n e trouble
    rw [← Nat.not_le]
    intro within
    have met := clear n (by omega) within
    simp [troubleAt?, trouble] at met
  · intro late n _ high
    unfold troubleAt?
    split
    · rename_i after error trouble
      have beyond := late after error trouble
      rw [if_neg (by omega)]
    · rfl

end OpenFile

namespace FileStatus

theorem checkFile_eq_ok_iff {s : FileStatus} :
    s.checkFile = .ok () ↔ s.type = .regular ∧ s.owner = 0 ∧ s.mode &&& 0o002 = 0 := by
  unfold checkFile checkControl worldWritable
  by_cases regular : s.type = .regular <;> by_cases root : s.owner = 0 <;>
    by_cases closed : s.mode &&& 0o002 = 0 <;> simp [regular, root, closed]

end FileStatus

/-- The file at a path can be trusted and holds these octets: its path is valid, it opens, it
is a regular file of the superuser that others cannot write, it is no larger than 1 MiB
and all of it can be read. -/
def Trusted (m : Machine) (p : Path) (contents : Octets) : Prop :=
  p.check = .ok () ∧ ∃ file, m.openFile p = .ok file ∧
    ∃ status, file.status = .ok status ∧
      status.type = .regular ∧ status.owner = 0 ∧ status.mode &&& 0o002 = 0 ∧
      file.contents = contents ∧ contents.length ≤ 1048576 ∧
      ∀ n e, file.readTrouble = some (n, e) → contents.length < n

namespace Source

theorem ofOpenFile_eq_taken_iff {file : OpenFile} {contents : Octets} :
    ofOpenFile file = .taken contents ↔ ∃ status, file.status = .ok status ∧
      status.checkFile = .ok () ∧ file.contents = contents ∧ contents.length ≤ 1048576 ∧
      ∀ n e, file.readTrouble = some (n, e) → contents.length < n := by
  have limit : sizeLimit = 1048576 := rfl
  unfold ofOpenFile
  cases asked : file.status with
  | error => simp
  | ok status =>
    cases checked : status.checkFile with
    | error => simp [checked]
    | ok =>
      simp only [Except.ok.injEq, exists_eq_left', checked, true_and]
      by_cases small : file.contents.length < sizeLimit + 1
      · cases reading : file.read (sizeLimit + 1) with
        | error =>
          simp only [reduceCtorEq, false_iff]
          intro h
          obtain ⟨rfl, -, late⟩ := h
          rw [(OpenFile.read_eq_ok_iff small).mpr ⟨rfl, late⟩] at reading
          cases reading
        | ok out =>
          obtain ⟨rfl, late⟩ := (OpenFile.read_eq_ok_iff small).mp reading
          simp only [if_neg (show ¬file.contents.length > sizeLimit by omega), taken.injEq]
          constructor
          · intro same
            subst same
            exact ⟨rfl, by omega, late⟩
          · intro h
            obtain ⟨rfl, -⟩ := h
            rfl
      · -- whatever was read of it, the file is larger than the limit
        have large : ¬(file.contents = contents ∧ contents.length ≤ 1048576 ∧
            ∀ n e, file.readTrouble = some (n, e) → contents.length < n) := by
          intro h
          obtain ⟨rfl, short, -⟩ := h
          omega
        simp only [large, iff_false]
        cases reading : file.read (sizeLimit + 1) with
        | error => simp
        | ok out =>
          rw [OpenFile.read, OpenFile.readFrom_eq_ok_iff] at reading
          have length : out.length = sizeLimit + 1 := by
            rw [reading.1, List.reverse_nil, List.nil_append, List.length_take]
            omega
          simp [length]

theorem of_eq_taken_iff {m : Machine} {p : Path} {contents : Octets} :
    of m p = .taken contents ↔ Trusted m p contents := by
  unfold of Trusted
  cases valid : p.check with
  | error => simp
  | ok =>
    cases opened : m.openFile p with
    | error error => cases error <;> simp
    | ok file =>
      simp only [ofOpenFile_eq_taken_iff, FileStatus.checkFile_eq_ok_iff, Except.ok.injEq,
        exists_eq_left', true_and, and_assoc]

end Source

end SubordinateIds
