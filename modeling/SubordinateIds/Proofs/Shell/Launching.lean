import SubordinateIds.Proofs.Octets
import SubordinateIds.Proofs.Shell.Runs
import SubordinateIds.Shell.Launch

/-
  Launching — what a command finds, which file it starts, and how that ends

  Of the environment of a command only the last value of each name counts, so two commands
  that differ in nothing else do the same (`launch_congr`). A name without a slash is looked
  for in one directory after the other, and the first file that can be started is started
  (`startFrom_eq_ok_iff`).

  Whatever is started, it runs with nothing above it and with the two signals turned off that
  are turned off from the start. So it ends with a status of one octet, or by a signal that
  ends programs and is none of the two (`launch_exited`, `launch_signaled`). The programs that
  it leaves running have numbers of their own (`jobs_nodup`), and what it set has the form that
  it should (`startsWith_directory`, `isSound_of_mem_limits`, `mask_lt`).
-/

namespace SubordinateIds.Shell

variable {t : FileTree} {c : Command} {exit : Exit}

/-! ## What counts of an environment -/

/-- The last value of a name in an environment. -/
def lastValue? (env : List (String × Octets)) (name : Octets) : Option Octets :=
  (env.reverse.find? fun e => e.1.toUTF8.toList == name).map (·.2)

theorem isSome_lastValue?_iff {env : List (String × Octets)} {name : Octets} :
    (lastValue? env name).isSome ↔ name ∈ env.map fun e => e.1.toUTF8.toList := by
  rw [lastValue?, Option.isSome_map, List.find?_isSome, List.mem_map]
  simp only [List.mem_reverse, beq_iff_eq]

theorem environmentEntries_eq (env : List (String × Octets)) :
    environmentEntries env =
      ((env.map fun e => e.1.toUTF8.toList).eraseDups.mergeSort Octets.le).filterMap fun name =>
        (lastValue? env name).map fun value => (octetText name, octetText value) := by
  simp only [environmentEntries, lastValue?, Option.map_map, Function.comp_def]

/-- Environments in which each name has the same last value are one to a program: neither the
order of their definitions nor what was defined before counts. -/
theorem environmentEntries_congr {env env' : List (String × Octets)}
    (same : ∀ name, lastValue? env name = lastValue? env' name) :
    environmentEntries env = environmentEntries env' := by
  have names : (env.map fun e => e.1.toUTF8.toList).eraseDups.mergeSort Octets.le =
      (env'.map fun e => e.1.toUTF8.toList).eraseDups.mergeSort Octets.le := by
    have sorted := Octets.pairwise_lt_mergeSort (env.map fun e => e.1.toUTF8.toList)
    have sorted' := Octets.pairwise_lt_mergeSort (env'.map fun e => e.1.toUTF8.toList)
    refine List.Perm.eq_of_pairwise ?_ sorted sorted' ?_
    · intro a b _ _ less more
      exact absurd (Std.lt_trans less more) (Std.lt_irrefl)
    · refine (List.perm_ext_iff_of_nodup ?_ ?_).mpr fun name => ?_
      · exact sorted.imp fun less => Std.ne_of_lt less
      · exact sorted'.imp fun less => Std.ne_of_lt less
      · rw [List.mem_mergeSort, List.mem_mergeSort, List.mem_eraseDups, List.mem_eraseDups,
          ← isSome_lastValue?_iff, ← isSome_lastValue?_iff, same]
  rw [environmentEntries_eq, environmentEntries_eq, names]
  simp only [same]

section Environments

variable {env env' : List (String × Octets)}

theorem startAt_congr (same : environmentEntries env = environmentEntries env') (plain : Bool)
    (p : Path) : startAt t { c with env } plain p = startAt t { c with env := env' } plain p := by
  have room : isTooLong p.octets.length { c with env } =
      isTooLong p.octets.length { c with env := env' } := by
    simp only [isTooLong, same]
  have start : initialState t { c with env } = initialState t { c with env := env' } := by
    simp only [initialState, environmentFound, same]
  simp only [startAt, room, start]

theorem startFrom_congr (same : environmentEntries env = environmentEntries env')
    (refused : Bool) (last : SystemError) (parts : List String) :
    startFrom t { c with env } refused last parts =
      startFrom t { c with env := env' } refused last parts := by
  induction parts generalizing refused last with
  | nil => rfl
  | cons part parts ih => simp only [startFrom, startAt_congr same, ih]

/-- A command does the same in environments in which each name has the same last value. -/
theorem launch_congr (same : ∀ name, lastValue? env name = lastValue? env' name)
    (whole : hasNul { c with env } = hasNul { c with env := env' }) :
    launch t { c with env } = launch t { c with env := env' } := by
  have entries := environmentEntries_congr same
  simp only [launch, whole, startAt_congr entries, startFrom_congr entries, environmentFound,
    entries]

end Environments

/-! ## Which file is started -/

/-- Where a file is looked for in a directory of the search path. The directory without a name
is the one at hand. -/
def pathIn (part : String) (name : Octets) : Path :=
  let octets : Octets := part.toList.map fun c => c.toNat.toUInt8
  ⟨if octets.isEmpty then name else octets ++ Path.slash :: name⟩

/-- Why a directory is passed over: what is looked for is not there, or cannot be run. -/
def isPassedOver : Except SystemError Exit → Bool
  | .error .permissionDenied | .error .notFound | .error .notADirectory => true
  | _ => false

theorem startFrom_of_isPassedOver {part : String} (refused : Bool) (last : SystemError)
    (parts : List String)
    (passes : isPassedOver (startAt t c true (pathIn part c.program.octets)) = true) :
    ∃ refused' last', startFrom t c refused last (part :: parts) =
        startFrom t c refused' last' parts ∧ (refused' = true ↔ refused = true ∨
      startAt t c true (pathIn part c.program.octets) = .error .permissionDenied) := by
  rcases found : startAt t c true (pathIn part c.program.octets) with e | exit
  · rw [found] at passes
    simp only [pathIn] at found
    cases e with
    | permissionDenied => exact ⟨true, .permissionDenied, by simp only [startFrom, found], by simp⟩
    | notFound => exact ⟨refused, .notFound, by simp only [startFrom, found], by simp⟩
    | notADirectory => exact ⟨refused, .notADirectory, by simp only [startFrom, found], by simp⟩
    | _ => cases passes
  · rw [found] at passes
    cases passes

theorem startFrom_of_not_isPassedOver {part : String} (refused : Bool) (last : SystemError)
    (parts : List String)
    (kept : isPassedOver (startAt t c true (pathIn part c.program.octets)) = false) :
    startFrom t c refused last (part :: parts) =
      startAt t c true (pathIn part c.program.octets) := by
  rcases found : startAt t c true (pathIn part c.program.octets) with e | exit
  · rw [found] at kept
    simp only [pathIn] at found
    cases e <;> first | cases kept; done | simp only [startFrom, found]
  · simp only [pathIn] at found
    simp only [startFrom, found]

/-- The first directory that is not passed over decides. -/
theorem startFrom_eq_ok_iff (refused : Bool) (last : SystemError) (parts : List String) :
    startFrom t c refused last parts = .ok exit ↔
      ∃ before part after, parts = before ++ part :: after ∧
        (∀ p ∈ before, isPassedOver (startAt t c true (pathIn p c.program.octets)) = true) ∧
        startAt t c true (pathIn part c.program.octets) = .ok exit := by
  induction parts generalizing refused last with
  | nil =>
    refine ⟨?_, ?_⟩
    · intro h
      cases h
    · rintro ⟨before, part, after, h, -⟩
      simp at h
  | cons part parts ih =>
    cases passes : isPassedOver (startAt t c true (pathIn part c.program.octets)) with
    | true =>
      obtain ⟨refused', last', next, -⟩ := startFrom_of_isPassedOver refused last parts passes
      rw [next, ih]
      refine ⟨?_, ?_⟩
      · rintro ⟨before, found, after, rfl, passed, started⟩
        refine ⟨part :: before, found, after, rfl, ?_, started⟩
        exact List.forall_mem_cons.mpr ⟨passes, passed⟩
      · rintro ⟨before, found, after, split, passed, started⟩
        cases before with
        | nil =>
          obtain ⟨rfl, rfl⟩ := List.cons.inj split
          rw [started] at passes
          cases passes
        | cons first before =>
          obtain ⟨rfl, rfl⟩ := List.cons.inj split
          exact ⟨before, found, after, rfl, (List.forall_mem_cons.mp passed).2, started⟩
    | false =>
      rw [startFrom_of_not_isPassedOver refused last parts passes]
      refine ⟨?_, ?_⟩
      · intro started
        exact ⟨[], part, parts, rfl, nofun, started⟩
      · rintro ⟨before, found, after, split, passed, started⟩
        cases before with
        | nil =>
          obtain ⟨rfl, rfl⟩ := List.cons.inj split
          exact started
        | cons first before =>
          obtain ⟨rfl, rfl⟩ := List.cons.inj split
          have := passed _ List.mem_cons_self
          rw [passes] at this
          cases this

/-- A file that was found and could not be run is told of, wherever it was found. -/
theorem startFrom_refused (refused : Bool) (last : SystemError) {parts : List String}
    (passes : ∀ p ∈ parts, isPassedOver (startAt t c true (pathIn p c.program.octets)) = true)
    (any : refused = true ∨
      ∃ p ∈ parts, startAt t c true (pathIn p c.program.octets) = .error .permissionDenied) :
    startFrom t c refused last parts = .error .permissionDenied := by
  induction parts generalizing refused last with
  | nil =>
    obtain rfl | ⟨p, mem, -⟩ := any
    · rfl
    · cases mem
  | cons part parts ih =>
    obtain ⟨first, rest⟩ := List.forall_mem_cons.mp passes
    obtain ⟨refused', last', next, told⟩ := startFrom_of_isPassedOver refused last parts first
    rw [next]
    refine ih refused' last' rest ?_
    obtain was | ⟨p, mem, denied⟩ := any
    · exact .inl (told.mpr (.inl was))
    · rcases List.mem_cons.mp mem with rfl | mem
      · exact .inl (told.mpr (.inr denied))
      · exact .inr ⟨p, mem, denied⟩

/-! ## How it ends -/

/-- A path leads to a file that a command starts: one that may be run and for whose words there
is room. It is a program that is known, or names its interpreter, unless it is `plain`. -/
structure Starts (t : FileTree) (c : Command) (plain : Bool) (p : Path) (place : List Octets) :
    Prop where
  file : ∃ mode contents, t.resolve p = .ok (place, .file mode contents) ∧ mode &&& 0o100 ≠ 0 ∧
    ((programAt place).isSome ∨ (interpreter? (octetText contents).toList).isSome ∨ plain = true)
  room : isTooLong p.octets.length c = false

/-- A program runs on the arguments of the command, from the state in which all start. -/
theorem startAt_eq_ok {plain : Bool} {p : Path} (h : startAt t c plain p = .ok exit) :
    ∃ place, Starts t c plain p place ∧ exit = finish
      (program fuel (octetText p.octets) place (c.args.map shellText)) (initialState t c) := by
  unfold startAt at h
  rcases resolved : t.resolve p with e | ⟨place, node⟩
  · rw [resolved] at h
    cases h
  rw [resolved] at h
  refine ⟨place, ?_⟩
  cases node with
  | file mode contents =>
    simp only [bind, Except.bind] at h
    split at h
    · cases h
    rename_i runs
    split at h
    · cases h
    rename_i fits
    have started (known : (programAt place).isSome ∨
        (interpreter? (octetText contents).toList).isSome ∨ plain = true) :
        Starts t c plain p place :=
      ⟨⟨mode, contents, resolved, runs, known⟩, Bool.not_eq_true _ ▸ fits⟩
    split at h
    · rename_i known
      cases h
      exact ⟨started (.inl known), rfl⟩
    · split at h
      · rename_i named
        split at h
        · cases h
        · split at h
          · split at h <;> cases h
            exact ⟨started (.inr (.inl (by rw [named]; rfl))), rfl⟩
          · cases h
      · split at h <;> cases h
        exact ⟨started (.inr (.inr ‹_›)), rfl⟩
  | _ => cases h

theorem launch_eq_ok (h : launch t c = .ok exit) :
    ∃ plain p place, Starts t c plain p place ∧ exit = finish
      (program fuel (octetText p.octets) place (c.args.map shellText)) (initialState t c) := by
  unfold launch at h
  split at h
  · cases h
  · split at h
    · exact ⟨false, c.program, startAt_eq_ok h⟩
    · split at h
      · cases h
      · obtain ⟨_, part, _, _, _, started⟩ := (startFrom_eq_ok_iff _ _ _).mp h
        exact ⟨true, pathIn part c.program.octets, startAt_eq_ok started⟩

/-- A command that is ended by a signal is ended by one that ends programs, and by none that is
turned off from the start. -/
theorem launch_signaled {signal : Int} (h : launch t c = .ok (.signaled signal)) :
    ∃ n : Nat, signal = n ∧ Signal.ends n = true ∧ n ∉ Signal.reserved := by
  obtain ⟨_, p, place, -, ended⟩ := launch_eq_ok h
  have strikes := ((steadyAt fuel).program (octetText p.octets) place (c.args.map shellText)
    (initialState t c)).strikes
  rcases ran : (program fuel (octetText p.octets) place (c.args.map shellText)).run
    (initialState t c) with ⟨result, st⟩
  simp only [finish, ran] at ended strikes
  split at ended
  · rename_i target n
    cases ended
    obtain ⟨ends, taken⟩ := strikes target n rfl
    rcases taken with ⟨-, taken⟩ | ⟨caller, mem, -⟩
    · exact ⟨n, rfl, ends, taken⟩
    · cases mem
  · cases ended

/-- A command that comes to its end does so with a status of one octet. -/
theorem launch_exited {code : Int} (h : launch t c = .ok (.exited code)) :
    0 ≤ code ∧ code < 256 := by
  obtain ⟨_, p, place, -, ended⟩ := launch_eq_ok h
  rcases ran : (program fuel (octetText p.octets) place (c.args.map shellText)).run
    (initialState t c) with ⟨result, st⟩
  simp only [finish, ran] at ended
  split at ended <;> cases ended
  omega

section Final

variable {path : String} {place : List Octets} {args : List String} {st : State}

theorem grows_initialState
    (ran : ((program fuel path place args).run (initialState t c)).2 = st) :
    (initialState t c).ledger.Grows st.ledger :=
  ran ▸ ((steadyAt fuel).program path place args (initialState t c)).grows

/-- The programs that are left running have numbers of their own, and none has the number of the
one that was started first. -/
theorem jobs_nodup (ran : ((program fuel path place args).run (initialState t c)).2 = st) :
    (st.jobs.map (·.number)).Nodup ∧ ∀ job ∈ st.jobs, 1000 < job.number := by
  obtain ⟨more, added, distinct, given⟩ := (grows_initialState ran).jobs
  have numbers : st.jobs.map (·.number) = more := added.trans (List.append_nil more)
  refine ⟨numbers ▸ distinct, fun job mem => (given job.number ?_).1⟩
  exact numbers ▸ List.mem_map_of_mem mem

theorem startsWith_directory
    (ran : ((program fuel path place args).run (initialState t c)).2 = st) :
    st.directory.startsWith "/" = true := by
  refine (grows_initialState ran).directory ?_
  rw [String.startsWith_string_iff]
  show "/".toList <+: "/work".toList
  decide

/-- No limit comes to be above the one up to which it may be raised. -/
theorem isSound_of_mem_limits
    (ran : ((program fuel path place args).run (initialState t c)).2 = st) {letter : Char}
    {limit : Limit} (mem : (letter, limit) ∈ st.limits) : limit.isSound = true :=
  (grows_initialState ran).limits nofun limit (List.mem_map_of_mem mem)

theorem mask_lt (ran : ((program fuel path place args).run (initialState t c)).2 = st) :
    st.mask < 512 :=
  (grows_initialState ran).mask (by decide : 0o022 < 512)

end Final

end SubordinateIds.Shell
