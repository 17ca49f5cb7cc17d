import SubordinateIds.Proofs.Shell.Course
import SubordinateIds.Shell.Builtin

/-
  Commands — the courses of what is built in

  Every command that is built in is steady: whatever its words are, it runs as any act does
  (`steady_of_mem_builtins`). Some of them are made of others, so each has a lemma of its own,
  in the order of the modules that they stand in. The only ones that say more than the rules
  are those that deal with programs that were left running, where the ledger has their
  numbers, those that send a signal, and those that go to a directory or set rights or limits:
  the path that one goes to has no dots in it (`tidyPath_spec`), and a change of rights leaves
  nine bits (`maskBy?_lt`).
-/

namespace SubordinateIds.Shell

open Builtin

variable {st : State}

/-! ## Lines -/

theorem steady_readNames (words : List String) : Steady (readNames words) := by
  fun_induction readNames words with
  | case3 _ _ _ ih => exact ih.bind fun _ => .pure _
  | case5 _ _ _ _ ih | case6 _ _ _ _ _ ih => exact ih
  | case4 | case7 => exact steady_fault
  | _ => exact .pure _

theorem steady_takeLines (before : List (Char × Bool)) (fuel : Nat) :
    Steady (takeLines before fuel) := by
  induction fuel generalizing before with
  | zero => exact .pure _
  | succ fuel ih =>
    unfold takeLines
    refine steady_takeLine.bind ?_
    intro line
    exact .ite (ih _) (.pure _)

theorem steady_takeJoined (raw : Bool) : Steady (takeJoined raw) := by
  unfold takeJoined
  refine steady_takeLine.bind ?_
  intro line
  refine .ite (.pure _) (.ite ?_ (.pure _))
  exact .get_bind fun st => steady_takeLines _ _ st

theorem steady_assignFields (isSeparator isBlank : Char × Bool → Bool) (names : List String)
    (cs : List (Char × Bool)) : Steady (assignFields isSeparator isBlank names cs) := by
  induction names generalizing cs with
  | nil => exact .pure _
  | cons name names ih =>
    cases names with
    | nil =>
      intro st
      apply Course.unless
      intro _
      exact steady_assign _ _ st
    | cons other names =>
      intro st
      apply Course.unless
      intro _
      exact (steady_assign _ _ st).bind fun _ => ih _

theorem steady_read (words : List String) : Steady (Builtin.read words) := by
  unfold Builtin.read
  refine (steady_readNames words).bind ?_
  intro found st
  apply Course.unless
  intro _
  refine (steady_takeJoined _ st).bind ?_
  intro line
  apply Steady.get_bind
  intro st
  exact (steady_assignFields _ _ _ _ st).bind fun _ => steady_leaveStatus _

/-! ## Options -/

theorem steady_setOption (on : Bool) (option : Char) : Steady (setOption on option) :=
  .modify fun st => .refl st.ledger

theorem steady_showOptions (asCommands : Bool) : Steady (showOptions asCommands) :=
  .get_bind fun st => (steady_write _ _ st).discard

theorem steady_setLetters {other : Char → Run Unit} (others : ∀ c, Steady (other c)) (on : Bool)
    (rest : List String) (letters : List Char) : Steady (setLetters on other rest letters) := by
  fun_induction setLetters on other rest letters with
  | case1 => exact .pure _
  | case2 cs ih => exact (steady_showOptions _).bind fun _ => ih
  | case3 _ _ _ _ _ _ ih => exact (steady_setOption _ _).bind fun _ => ih
  | case4 _ _ _ _ _ ih => exact steady_fault.bind fun _ => ih
  | case5 _ _ _ _ _ _ ih => exact (steady_setOption _ _).bind fun _ => ih
  | case6 _ _ _ _ _ _ ih => exact (others _).bind fun _ => ih

theorem steady_setOptions (fuel : Nat) (words : List String) : Steady (setOptions fuel words) := by
  fun_induction setOptions fuel words with
  | case4 =>
    exact (steady_setOption _ _).bind fun _ => (steady_setOption _ _).bind fun _ => .pure _
  | case5 _ _ _ _ _ _ _ _ _ ih => exact (steady_setLetters (fun _ => steady_fault) _ _ _).bind ih
  | _ => exact .pure _

/-! ## Signals and programs that were left running -/

theorem map_number (change : Job → Job) (same : ∀ job, (change job).number = job.number)
    (jobs : List Job) : (jobs.map change).map (·.number) = jobs.map (·.number) := by
  rw [List.map_map]
  exact List.map_congr_left fun job _ => same job

theorem ledger_withJob (st : State) (number : Nat) (change : Job → Job)
    (same : ∀ job, (change job).number = job.number) :
    (st.withJob number change).ledger = st.ledger := by
  have jobs := map_number (fun job => if job.number = number then change job else job)
    (fun job => by split <;> simp [same]) st.jobs
  unfold State.withJob State.ledger
  rw [jobs]

theorem ledger_seeingEnds (st : State) : st.seeingEnds.ledger = st.ledger := by
  have jobs := map_number
    (fun job => if job.ending ≤ st.now && st.slots.elem (some job.number) then
      { job with seen := true } else job)
    (fun job => by split <;> rfl) st.jobs
  unfold State.seeingEnds State.ledger
  rw [jobs]

theorem ledger_hearing (st : State) (number time : Nat) :
    (st.hearing number time).ledger = st.ledger := rfl

theorem ledger_cutShort (st : State) (number status time : Nat) :
    (st.cutShort number status time).ledger = st.ledger := by
  have same := ledger_withJob st number (fun job => { job with status, ending := time })
    fun _ => rfl
  exact same

theorem steady_setActions (action : Option String) (words : List String) :
    Steady (setActions action words) := by
  induction words with
  | nil => exact steady_leaveStatus 0
  | cons word rest ih =>
    unfold setActions
    split
    · exact steady_leaveStatus 1
    · refine Steady.bind (.modify fun st => ?_) fun _ => ih
      exact .refl st.ledger

theorem steady_trap (words : List String) : Steady (trap words) := by
  unfold trap
  refine (steady_options _ _).bind ?_
  rintro ⟨_, words⟩
  dsimp only
  split
  · exact .get_bind fun st => steady_say _ _ st
  · exact steady_setActions _ _
  · exact .ite (steady_setActions _ _) (steady_setActions _ _)

theorem steady_notify (target n : Nat) : Steady (notify target n) :=
  .modify fun st => .refl st.ledger

theorem isDeadly_spec {actions : List (Nat × String)} {ignored : List Nat} {signal : Nat}
    (deadly : Signal.isDeadly actions ignored signal = true) :
    Signal.ends signal = true ∧ signal ∉ ignored := by
  unfold Signal.isDeadly at deadly
  simp only [Bool.and_eq_true, Bool.not_eq_true', List.elem_eq_mem,
    decide_eq_false_iff_not] at deadly
  exact deadly.1

theorem steady_signal (n target : Nat) : Steady (signal n target) := by
  unfold signal
  apply Steady.get_bind
  intro st
  apply Course.ite
  · intro own
    apply Course.ite
    · intro deadly
      apply Course.throw_bind
      intro _ _ same
      cases same
      obtain ⟨ends, taken⟩ := isDeadly_spec deadly
      exact ⟨ends, .inl ⟨own, taken⟩⟩
    · exact fun _ => .ite_bind (steady_notify _ _ st) fun _ => .pure _
  · intro _
    split
    · rename_i caller found
      apply Course.ite
      · intro deadly
        apply Course.throw_bind
        intro _ _ same
        cases same
        obtain ⟨ends, taken⟩ := isDeadly_spec (Bool.and_eq_true_iff.mp deadly).2
        have number := List.find?_some found
        have mem := List.mem_of_find?_eq_some found
        exact ⟨ends, .inr ⟨caller, mem, (beq_iff_eq.mp number).symm, taken⟩⟩
      · exact fun _ => .ite_bind (steady_notify _ _ st) fun _ => .pure _
    · split
      · rename_i job _
        refine .ite (fun _ => .of_pure _) fun _ => .ite (fun _ => ?_) fun _ => .of_pure _
        cases job.answer? n st.now with
        | some answer =>
          refine Course.bind ?_ fun _ => .pure _
          cases answer.ending with
          | none => exact .of_pure _
          | some ending => exact .of_set (.of_eq (ledger_cutShort ..))
        | none =>
          refine .ite (fun _ => ?_) fun _ => .of_pure _
          exact .set_bind (.of_eq (ledger_cutShort ..)) (.of_pure _)
      · exact .of_pure _

theorem steady_showJob (letters : List Char) (number : Nat) : Steady (showJob letters number) := by
  unfold showJob
  apply Steady.get_bind
  intro st
  split
  · refine .ite (fun _ => .set_bind (.refl _) ?_) fun _ => ?_
    · exact .get_bind (steady_say _ _ _)
    · exact .get_bind (steady_say _ _ _)
  · exact .of_pure _

theorem steady_showJobs (words : List String) : Steady (showJobs words) := by
  unfold showJobs
  refine (steady_options _ _).bind ?_
  rintro ⟨letters, words⟩
  refine (steady_leaveStatus 0).bind fun _ => .ite ?_ ?_
  · refine .get_bind fun st => Steady.forM ?_ _ st
    intro slot
    cases slot with
    | none => exact .pure _
    | some number => exact steady_showJob letters number
  · refine Steady.bind (.forIn ?_ _ _) fun _ => .pure _
    intro word _
    refine .get_bind fun st => ?_
    split
    · exact (steady_showJob letters _ st).bind fun _ => .pure _
    · exact steady_fault.bind (fun _ => .pure _) st

theorem steady_reach (n : Nat) (target : String) : Steady (reach n target) := by
  unfold reach
  apply Steady.get_bind
  intro st
  split
  · exact .ite (fun _ => .of_pure _) fun _ => steady_fault st
  · split
    · exact steady_fault st
    · exact steady_signal _ _ st
    · exact steady_signal _ _ st
    · exact .of_pure _
  · split
    · exact steady_fault st
    · exact steady_signal _ _ st
    · exact steady_signal _ _ st

theorem steady_kill (words : List String) : Steady (kill words) := by
  unfold kill
  split
  · exact steady_say _ _
  · refine (steady_demandCount _).bind ?_
    intro n st
    apply Course.unless
    intro _
    exact steady_say _ _ st
  · refine Steady.bind (.forIn ?_ _ _) fun _ => steady_leaveStatus _
    intro target status
    refine (steady_reach _ target).bind ?_
    intro found
    exact .ite (.pure _) (.pure _)
  · exact steady_fault

theorem steady_waitUntil (time : Nat) : Steady (waitUntil time) := by
  unfold waitUntil
  apply Steady.get_bind
  intro st
  have later (now : Nat) : st.ledger.Grows { st with now := max st.now now }.ledger :=
    { Ledger.Grows.refl st.ledger with now := Nat.le_max_left _ _ }
  dsimp only
  split
  · exact .set_bind (later _) (.of_pure _)
  · refine .set_bind ?_ (.of_pure _)
    rw [ledger_seeingEnds]
    exact later time

theorem steady_tell (number : Nat) :
    Steady (modify fun st => st.withJob number fun job => { job with told := true }) :=
  .modify fun st => .of_eq <|
    ledger_withJob st number (fun job => { job with told := true }) fun _ => rfl

theorem steady_wait (words : List String) : Steady (wait words) := by
  unfold wait
  refine (steady_options _ _).bind ?_
  rintro ⟨_, words⟩
  apply Steady.get_bind
  intro st
  refine .ite (fun _ => ?_) fun _ => ?_
  · refine (steady_waitUntil _ st).bind ?_
    intro early
    cases early with
    | some status => exact steady_leaveStatus status
    | none =>
      exact Steady.bind (.forM (fun job => steady_tell _) _) fun _ => steady_leaveStatus 0
  · refine Course.bind (Steady.forIn ?_ _ _ st) ?_
    · intro word _
      apply Steady.get_bind
      intro st
      extract_lets await
      have awaited : ∀ number, Steady (await number) := by
        intro number
        refine .ite ?_ (.pure _)
        split
        · refine (steady_waitUntil _).bind ?_
          intro early
          cases early with
          | some status => exact (steady_leaveStatus status).bind fun _ => .pure _
          | none => exact (steady_tell number).bind fun _ => .pure _
        · exact .pure _
      split
      · split
        · exact awaited _ st
        · exact (steady_fault st).bind awaited
      · exact (steady_demandCount word st).bind awaited
    · rintro ⟨early, status⟩
      cases early with
      | some _ => exact .pure _
      | none => exact steady_leaveStatus status

/-! ## Directories and rights -/

theorem startsWith_pathOf (place : List Octets) : (pathOf place).startsWith "/" = true := by
  rw [String.startsWith_string_iff, pathOf, String.toList_append]
  exact List.prefix_append _ _

theorem plain_foldl {segments before : List String}
    (plain : ∀ s ∈ before, s ≠ "" ∧ s ≠ "." ∧ s ≠ "..") :
    ∀ s ∈ segments.foldl (fun (before : List String) segment =>
      if segment = "" || segment = "." then before
      else if segment = ".." then before.tail
      else segment :: before) before, s ≠ "" ∧ s ≠ "." ∧ s ≠ ".." := by
  induction segments generalizing before with
  | nil => exact plain
  | cons segment segments ih =>
    refine ih ?_
    dsimp only
    split
    · exact plain
    · rename_i other
      split
      · exact fun s mem => plain s (List.mem_of_mem_tail mem)
      · rename_i up
        simp only [Bool.or_eq_true, decide_eq_true_eq, not_or] at other
        exact List.forall_mem_cons.mpr ⟨⟨other.1, other.2, up⟩, plain⟩

/-- A path without dots starts at the root, and no name in it is empty or made of dots. -/
theorem tidyPath_spec (text : String) : ∃ (root : String) (names : List String),
    tidyPath text = root ++ "/".intercalate names ∧ root.startsWith "/" = true ∧
      ∀ s ∈ names, s ≠ "" ∧ s ≠ "." ∧ s ≠ ".." := by
  refine ⟨_, _, rfl, ?_, fun s mem => ?_⟩
  · split <;> exact String.startsWith_string_iff.mpr ⟨_, rfl⟩
  · exact plain_foldl (List.forall_mem_nil _) s (List.mem_reverse.mp mem)

theorem startsWith_tidyPath (text : String) : (tidyPath text).startsWith "/" = true := by
  obtain ⟨root, names, spelled, rooted, -⟩ := tidyPath_spec text
  rw [String.startsWith_string_iff] at rooted ⊢
  rw [spelled, String.toList_append]
  exact rooted.trans (List.prefix_append _ _)

theorem steady_changeDirectory (words : List String) : Steady (changeDirectory words) := by
  unfold changeDirectory
  refine (steady_options _ _).bind ?_
  rintro ⟨letters, words⟩
  apply Steady.get_bind
  intro st
  dsimp only
  split
  · apply Course.unless
    intro _
    refine .set_bind { Ledger.Grows.refl _ with directory := fun _ => ?_ } ?_
    · show (if _ then _ else _ : String).startsWith "/" = true
      split
      · exact startsWith_pathOf _
      · exact startsWith_tidyPath _
    refine .bind (steady_assign _ _ _) fun _ => ?_
    refine (steady_assign _ _).bind fun _ => ?_
    exact .ite (steady_say _ _) (steady_leaveStatus 0)
  · exact steady_fault st

theorem steady_showDirectory (words : List String) : Steady (showDirectory words) := by
  unfold showDirectory
  refine (steady_options _ _).bind ?_
  rintro ⟨letters, _⟩
  apply Steady.get_bind
  intro st
  split <;> exact steady_say _ _ st

theorem foldl_lt {α : Type} {bound start : Nat} {step : Nat → α → Nat} {items : List α}
    (fits : start < bound)
    (keeps : ∀ bits, bits < bound → ∀ item ∈ items, step bits item < bound) :
    items.foldl step start < bound := by
  apply List.foldlRecOn (motive := fun bits => bits < bound) items step fits
  exact keeps

/-- A change of nine bits leaves nine bits. -/
theorem maskBy?_lt {old new : Nat} {text : List Char} (fits : old < 512)
    (h : maskBy? old text = some new) : new < 512 := by
  unfold maskBy? at h
  extract_lets who shifts bit allowed at h
  split at h
  · rename_i sign letters _
    split at h
    · cases h
    extract_lets rights change at h
    cases h
    have bit_lt (c : Char) : bit c < 8 := by
      dsimp only [bit]
      split
      · decide
      · split <;> decide
    have rights_lt : rights < 8 := by
      refine foldl_lt (by decide) fun bits fine item mem => Nat.or_lt_two_pow (n := 3) fine ?_
      obtain ⟨c, -, rfl⟩ := List.mem_map.mp mem
      exact bit_lt c
    have mem_shifts (shift : Nat) (mem : shift ∈ shifts) : shift = 0 ∨ shift = 3 ∨ shift = 6 := by
      dsimp only [shifts] at mem
      split at mem
      · revert shift
        decide
      · obtain ⟨c, -, rfl⟩ := List.mem_map.mp mem
        split
        · decide
        · split <;> decide
    refine Nat.xor_lt_two_pow (n := 9) (by decide) (foldl_lt ?_ fun bits fine shift mem => ?_)
    · exact Nat.xor_lt_two_pow (n := 9) (by decide) fits
    have here : rights <<< shift < 512 := by
      rcases mem_shifts shift mem with rfl | rfl | rfl
      · omega
      · omega
      · omega
    dsimp only [change]
    split
    · exact Nat.or_lt_two_pow (n := 9) fine here
    · exact Nat.lt_of_le_of_lt Nat.and_le_left fine
    · exact Nat.or_lt_two_pow (n := 9) (Nat.lt_of_le_of_lt Nat.and_le_left fine) here
  · cases h

theorem foldlM_maskBy?_lt {changes : List String} {old new : Nat} (fits : old < 512)
    (h : changes.foldlM (fun mask change => maskBy? mask change.toList) old = some new) :
    new < 512 := by
  induction changes generalizing old with
  | nil =>
    cases h
    exact fits
  | cons change changes ih =>
    obtain ⟨between, first, rest⟩ := Option.bind_eq_some_iff.mp h
    exact ih (maskBy?_lt fits first) rest

theorem steady_mask (words : List String) : Steady (mask words) := by
  unfold mask
  refine (steady_options _ _).bind ?_
  rintro ⟨letters, words⟩
  apply Steady.get_bind
  intro st
  dsimp only
  split
  · exact steady_say _ _ st
  · refine .ite (fun _ => ?_) fun _ => .ite (fun _ => steady_leaveStatus 0 st) fun _ => ?_
    · apply Course.unless
      intro _
      exact .of_set { Ledger.Grows.refl _ with
        mask := fun _ => Nat.lt_of_le_of_lt Nat.and_le_right (by decide) }
    · split
      · rename_i changed
        exact .of_set { Ledger.Grows.refl _ with
          mask := fun fits => foldlM_maskBy?_lt fits changed }
      · exact steady_fault st

/-! ## Limits -/

theorem steady_limitOf (word : String) : Steady (limitOf word) :=
  .ite (.pure _) (.ite (.pure _) steady_fault)

theorem limits_set {limits : List (Char × Limit)} {new : Limit} (fine : new.isSound = true)
    (kept : Char × Limit → Bool) (letter : Char)
    (sound : ∀ limit ∈ limits.map (·.2), limit.isSound = true) :
    ∀ limit ∈ ((letter, new) :: limits.filter kept).map (·.2), limit.isSound = true := by
  refine List.forall_mem_cons.mpr ⟨fine, fun limit mem => sound limit ?_⟩
  exact (List.filter_sublist.map _).subset mem

theorem steady_setLimit (kind : LimitKind) (current most : Bool) (value : Option Nat) :
    Steady (setLimit kind current most value) := by
  unfold setLimit
  apply Steady.get_bind
  intro st
  extract_lets old new
  apply Course.unless
  intro accepted
  have fine : new.isSound = true := by
    simp only [Bool.or_eq_true, Bool.not_eq_true', not_or, Bool.not_eq_false] at accepted
    exact accepted.1
  exact .of_set { Ledger.Grows.refl _ with limits := limits_set fine _ _ }

theorem steady_limit (words : List String) : Steady (limit words) := by
  unfold limit
  refine (steady_options _ _).bind ?_
  rintro ⟨given, words⟩
  apply Steady.get_bind
  intro st
  dsimp only
  split
  · refine .ite (fun _ => steady_say _ _ st) fun _ => ?_
    split
    · exact steady_say _ _ st
    · exact steady_fault st
  · split
    · exact (steady_limitOf _ st).bind fun _ => steady_setLimit _ _ _ _
    · exact steady_fault st
  · exact steady_fault st

/-! ## Variables, functions and what else there is -/

theorem steady_exit (words : List String) : Steady (Builtin.exit words) := by
  unfold Builtin.exit
  apply Steady.get_bind
  intro st
  extract_lets leave
  have left : ∀ status, Steady (leave status) :=
    fun status => (steady_leaveStatus _).bind fun _ => .throw nofun
  cases words with
  | nil => exact left _ st
  | cons word _ => exact (steady_demandCount word st).bind left

theorem steady_back (words : List String) : Steady (back words) := by
  unfold back
  apply Steady.get_bind
  intro st
  extract_lets leave
  have left : ∀ status, Steady (leave status) :=
    fun status => (steady_leaveStatus _).bind fun _ => .throw nofun
  cases words with
  | nil => exact left _ st
  | cons word _ => exact (steady_demandCount word st).bind left

theorem steady_jump {stop : Nat → Stop} (plain : ∀ n target signal, stop n ≠ .killed target signal)
    (words : List String) : Steady (jump stop words) := by
  unfold jump
  extract_lets leave
  have left : ∀ n, Steady (leave n) := by
    intro n st
    apply Course.unless
    intro _
    refine (steady_leaveStatus 0 st).bind fun _ => .get_bind fun st => ?_
    exact .ite (fun _ => Steady.throw (plain _) st) fun _ => .of_pure _
  cases words with
  | nil => exact left 1
  | cons word _ => exact (steady_demandCount word).bind left

theorem state_of_demandCount {word : String} {n : Nat} {st' : State}
    (ran : (demandCount word).run st = (.ok n, st')) : st = st' := by
  unfold demandCount at ran
  split at ran <;> cases ran
  rfl

theorem steady_shift (words : List String) : Steady (shift words) := by
  unfold shift
  apply Steady.get_bind
  intro st
  extract_lets drop
  have dropped (n : Nat) : Course (drop n) st := by
    apply Course.unless
    intro _
    exact .of_set (.refl _)
  cases words with
  | nil => exact dropped 1
  | cons word _ =>
    -- what is dropped are the arguments from before the word was read, which left all as it was
    refine (steady_demandCount word st).bind' ?_
    intro n st' ran
    obtain rfl := state_of_demandCount ran
    exact dropped n

theorem steady_showVariables (lead : String) (shown : Variable → Bool) :
    Steady (showVariables lead shown) :=
  .get_bind fun st => steady_say _ _ st

theorem steady_setAll (words : List String) : Steady (setAll words) := by
  unfold setAll
  refine .ite (steady_showVariables _ _) ((steady_setOptions _ _).bind ?_)
  intro args
  cases args with
  | none => exact steady_leaveStatus 0
  | some args =>
    refine Steady.bind (.modify fun st => ?_) fun _ => steady_leaveStatus 0
    exact .refl st.ledger

theorem steady_unset (words : List String) : Steady (unset words) := by
  unfold unset
  refine (steady_options _ _).bind ?_
  rintro ⟨letters, names⟩
  refine Steady.bind (.forM ?_ names) fun _ => steady_leaveStatus 0
  intro name
  apply Steady.get_bind
  intro st
  refine .ite (fun _ => .of_set (.refl _)) fun _ => ?_
  apply Course.unless
  intro _
  exact .of_set (.refl _)

theorem steady_declare (command : String) (isChanged : Variable → Bool)
    (change : Variable → Variable) (words : List String) :
    Steady (declare command isChanged change words) := by
  unfold declare
  refine (steady_options _ _).bind ?_
  rintro ⟨letters, words⟩
  refine .ite (steady_showVariables _ _)
    (Steady.bind (.forM ?_ words) fun _ => steady_leaveStatus 0)
  intro word st
  apply Course.unless
  intro _
  have changed (name : String) : Steady (modify fun st =>
      st.withVariable name (some (change ((st.binding? name).getD ⟨none, false, false⟩)))) :=
    .modify fun st => .refl st.ledger
  dsimp only
  split
  · exact (steady_assign _ _ st).bind fun _ => changed _
  · exact changed _ st

theorem steady_localise (words : List String) : Steady (localise words) := by
  unfold localise
  refine Steady.bind (.forM ?_ words) fun _ => .get_bind fun st => ?_
  · intro word
    apply Steady.get_bind
    intro st
    dsimp only
    split
    · exact steady_fault st
    · apply Course.unless
      intro _
      refine .set_bind (.refl _) ?_
      split
      · exact steady_assign _ _ _
      · exact .of_pure _
  · apply Course.unless
    intro _
    exact steady_leaveStatus 0 st

theorem steady_nextOption (words : List String) : Steady (nextOption words) := by
  unfold nextOption
  split
  · apply Steady.get_bind
    intro st
    extract_lets args turned finish noValue quiet
    generalize nextLetters turned args = found
    obtain ⟨position, letters⟩ := found
    have finished (letter : Char) (position : Nat) (used : Option Nat) :
        Steady (finish letter position used) := by
      refine (steady_assign _ _).bind fun _ st => ?_
      apply Course.unless
      intro _
      refine (steady_assign _ _ st).bind fun _ => .modify fun st => ?_
      exact .refl st.ledger
    have dropped : Steady noValue := .modify fun st => .refl st.ledger
    dsimp only
    split
    · exact (finished _ _ _ st).bind fun _ => steady_leaveStatus 1
    · refine (steady_leaveStatus 0 st).bind fun _ => .ite ?_ (.ite ?_ (.ite ?_ ?_))
      · exact .ite ((steady_assign _ _).bind fun _ => finished _ _ _)
          (dropped.bind fun _ => finished _ _ _)
      · exact (steady_assign _ _).bind fun _ => finished _ _ _
      · exact (steady_assign _ _).bind fun _ => finished _ _ _
      · split
        · exact (steady_assign _ _).bind fun _ => finished _ _ _
        · exact .ite ((steady_assign _ _).bind fun _ => finished _ _ _)
            (dropped.bind fun _ => finished _ _ _)
  · exact steady_fault

theorem steady_setAliases (words : List String) : Steady (setAliases words) := by
  unfold setAliases
  refine .ite (.get_bind fun st => steady_say _ _ st)
    (Steady.bind (.forIn ?_ _ _) fun _ => steady_leaveStatus _)
  intro word status
  apply Steady.get_bind
  intro st
  split
  · exact .set_bind (.refl _) (.of_pure _)
  · split
    · exact (steady_write _ _ st).discard.bind fun _ => .pure _
    · exact .of_pure _

theorem steady_dropAliases (words : List String) : Steady (dropAliases words) := by
  unfold dropAliases
  refine (steady_options _ _).bind ?_
  rintro ⟨letters, words⟩
  refine .ite (.modify fun st => ?_) (.get_bind fun st => .of_set ?_)
  · exact .refl st.ledger
  · exact .refl _

theorem steady_printf (words : List String) : Steady (Builtin.printf words) := by
  unfold Builtin.printf
  refine (steady_options _ _).bind ?_
  rintro ⟨_, words⟩
  cases words with
  | nil => exact steady_fault
  | cons format words =>
    dsimp only
    split
    · exact steady_say _ _
    · exact steady_fault

theorem steady_test (words : List String) : Steady (test words) := by
  unfold test
  refine .get_bind fun st => ?_
  split
  · exact steady_fault st
  · exact steady_leaveStatus _ st

theorem steady_bracket (words : List String) : Steady (bracket words) :=
  .ite (steady_test _) steady_fault

/-- Whatever the words after it are, a command that is built in is steady. -/
theorem steady_of_mem_builtins {e : String × (List String → Run Unit)} (mem : e ∈ builtins)
    (words : List String) : Steady (e.2 words) := by
  revert e
  simp only [builtins, List.forall_mem_cons, List.not_mem_nil, false_imp_iff, implies_true,
    and_true]
  exact ⟨steady_leaveStatus 0, steady_leaveStatus 0, steady_leaveStatus 1, steady_exit words,
    steady_back words, @steady_jump .breakLoops (fun _ => nofun) words,
    @steady_jump .continueLoops (fun _ => nofun) words,
    steady_shift words, steady_setAll words, steady_unset words, steady_declare _ _ _ words,
    steady_declare _ _ _ words, steady_localise words, steady_trap words, steady_kill words,
    steady_read words, steady_wait words, steady_changeDirectory words,
    steady_changeDirectory words, steady_showDirectory words, steady_mask words,
    steady_nextOption words, steady_say _ 0, steady_printf words, steady_test words,
    steady_bracket words, steady_say _ 0, steady_setAliases words, steady_dropAliases words,
    steady_showJobs words, steady_limit words, steady_fault, steady_fault⟩

end SubordinateIds.Shell
