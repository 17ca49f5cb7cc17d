import SubordinateIds.Shell.Limits

/-
  Courses — what any act of a program leaves as it is, and what it only adds to

  A script may do much, but there are things that it cannot do. It keeps its own number and
  what it was started with: the programs above it and the signals that were turned off. Time
  does not go back, numbers are not given twice, and neither a text that a stream may lead to
  nor a program that was left running is ever taken away. What it may set keeps its form: the
  path of its directory starts at the root, the rights that are taken from new files are nine
  bits, and no limit is above the one up to which it may be raised. All of this is about a few
  things in a state, its `Ledger`, and `Ledger.Grows` says what they may become.

  An act may also stop because a signal ends a program that is waited for. Then the signal is
  one that ends programs, and it was not turned off where it struck (`Ledger.Strikes`).

  `Course act st` says both of an act that runs from a state, and `Steady act` says it for all
  states. There is a rule here for each way in which acts are put together.
-/

namespace SubordinateIds.Shell

/-- What is kept of a state, or only added to. -/
structure Ledger where
  number : Nat
  process : Nat
  parent : Nat
  callers : List Caller
  ignored : List Nat
  now : Nat
  lastNumber : Nat
  /-- How many texts there are. -/
  texts : Nat
  /-- The numbers of the programs that were left running. -/
  jobs : List Nat
  directory : String
  /-- The rights that new files do not get. -/
  mask : Nat
  /-- The limits that were set. -/
  limits : List Limit

/-- The ledger of a state. -/
def State.ledger (st : State) : Ledger where
  number := st.number
  process := st.process
  parent := st.parent
  callers := st.callers
  ignored := st.ignored
  now := st.now
  lastNumber := st.lastNumber
  texts := st.texts.length
  jobs := st.jobs.map (·.number)
  directory := st.directory
  mask := st.mask
  limits := st.limits.map (·.2)

namespace Ledger

/-- What a ledger may become. -/
structure Grows (before after : Ledger) : Prop where
  number : after.number = before.number
  process : after.process = before.process
  parent : after.parent = before.parent
  callers : after.callers = before.callers
  ignored : after.ignored = before.ignored
  now : before.now ≤ after.now
  lastNumber : before.lastNumber ≤ after.lastNumber
  texts : before.texts ≤ after.texts
  jobs : ∃ more, after.jobs = more ++ before.jobs ∧ more.Nodup ∧
    ∀ n ∈ more, before.lastNumber < n ∧ n ≤ after.lastNumber
  directory : before.directory.startsWith "/" = true → after.directory.startsWith "/" = true
  mask : before.mask < 512 → after.mask < 512
  limits : (∀ limit ∈ before.limits, limit.isSound = true) →
    ∀ limit ∈ after.limits, limit.isSound = true

namespace Grows

variable {a b c : Ledger}

theorem refl (a : Ledger) : Grows a a where
  number := rfl
  process := rfl
  parent := rfl
  callers := rfl
  ignored := rfl
  now := Nat.le_refl _
  lastNumber := Nat.le_refl _
  texts := Nat.le_refl _
  jobs := ⟨[], rfl, List.nodup_nil, nofun⟩
  directory := id
  mask := id
  limits := id

theorem of_eq (same : b = a) : Grows a b := same ▸ refl a

theorem trans (h : Grows a b) (h' : Grows b c) : Grows a c where
  number := h'.number.trans h.number
  process := h'.process.trans h.process
  parent := h'.parent.trans h.parent
  callers := h'.callers.trans h.callers
  ignored := h'.ignored.trans h.ignored
  now := Nat.le_trans h.now h'.now
  lastNumber := Nat.le_trans h.lastNumber h'.lastNumber
  texts := Nat.le_trans h.texts h'.texts
  jobs := by
    obtain ⟨more, added, distinct, given⟩ := h.jobs
    obtain ⟨more', added', distinct', given'⟩ := h'.jobs
    refine ⟨more' ++ more, by rw [added', added, List.append_assoc], ?_, ?_⟩
    · refine List.nodup_append.mpr ⟨distinct', distinct, ?_⟩
      intro n mem m mem' same
      have late := (given' n mem).1
      have early := (given m mem').2
      omega
    · intro n mem
      have later := h.lastNumber
      have later' := h'.lastNumber
      rcases List.mem_append.mp mem with mem | mem
      · have := given' n mem
        omega
      · have := given n mem
        omega
  directory rooted := h'.directory (h.directory rooted)
  mask fits := h'.mask (h.mask fits)
  limits sound := h'.limits (h.limits sound)

end Grows

/-- A signal can end a program with a number: the one of the ledger, or one above it. It is a
signal that ends programs, and was not turned off there. -/
structure Strikes (ledger : Ledger) (target signal : Nat) : Prop where
  ends : Signal.ends signal = true
  taken : (target = ledger.number ∧ signal ∉ ledger.ignored) ∨
    ∃ caller ∈ ledger.callers, target = caller.number ∧ signal ∉ caller.ignored

theorem Grows.strikes_iff {a b : Ledger} {target signal : Nat} (h : Grows a b) :
    b.Strikes target signal ↔ a.Strikes target signal := by
  have same : ∀ {x y : Ledger}, x.number = y.number → x.ignored = y.ignored →
      x.callers = y.callers → x.Strikes target signal → y.Strikes target signal := by
    intro x y number ignored callers strikes
    refine ⟨strikes.ends, ?_⟩
    rw [← number, ← ignored, ← callers]
    exact strikes.taken
  exact ⟨same h.number h.ignored h.callers, same h.number.symm h.ignored.symm h.callers.symm⟩

end Ledger

variable {α β : Type} {st st' : State}

/-- How an act runs from a state. -/
structure Course (act : Run α) (st : State) : Prop where
  grows : st.ledger.Grows (act.run st).2.ledger
  strikes : ∀ target signal, (act.run st).1 = .error (.killed target signal) →
    st.ledger.Strikes target signal

/-- From every state an act runs in the right way. -/
def Steady (act : Run α) : Prop := ∀ st, Course act st

/-! ## How acts run -/

theorem run_bind (act : Run α) (f : α → Run β) (st : State) :
    (act >>= f).run st = match act.run st with
      | (.ok a, st') => (f a).run st'
      | (.error stop, st') => (.error stop, st') := by
  have first : (act >>= f).run st = match act.run st with | (r, st') => ExceptT.bindCont f r st' :=
    rfl
  rw [first]
  rcases act.run st with ⟨stop | a, st'⟩ <;> rfl

theorem run_get (st : State) : (get : Run State).run st = (.ok st, st) := rfl

theorem run_set (st st' : State) : (set st' : Run PUnit).run st = (.ok ⟨⟩, st') := rfl

theorem run_map (f : α → β) (act : Run α) (st : State) :
    (f <$> act).run st = match act.run st with
      | (.ok a, st') => (.ok (f a), st')
      | (.error stop, st') => (.error stop, st') := by
  simp only [Functor.map, ExceptT.map, ExceptT.mk, bind, StateT.bind, ExceptT.run]
  rcases act st with ⟨stop | a, st'⟩ <;> rfl

theorem run_tryCatch (act : Run α) (handler : Stop → Run α) (st : State) :
    (tryCatch act handler).run st = match act.run st with
      | (.ok a, st') => (.ok a, st')
      | (.error stop, st') => (handler stop).run st' := by
  simp only [tryCatch, tryCatchThe, MonadExceptOf.tryCatch, ExceptT.tryCatch, ExceptT.mk, bind,
    StateT.bind, ExceptT.run]
  rcases act st with ⟨stop | a, st'⟩ <;> rfl

/-! ## Rules for single steps -/

/-- A stop that is handed on is no signal, or one that can strike. -/
def Mild (stop : Stop) (st : State) : Prop :=
  ∀ target signal, stop = .killed target signal → st.ledger.Strikes target signal

namespace Course

theorem of_pure (a : α) : Course (pure a : Run α) st where
  grows := .refl _
  strikes := nofun

theorem of_throw {stop : Stop} (mild : Mild stop st) : Course (throw stop : Run α) st where
  grows := .refl _
  strikes := by
    intro target signal h
    cases h
    exact mild target signal rfl

theorem of_set (grows : st.ledger.Grows st'.ledger) : Course (set st' : Run PUnit) st where
  grows := grows
  strikes := nofun

theorem of_modify {change : State → State} (grows : st.ledger.Grows (change st).ledger) :
    Course (modify change : Run PUnit) st where
  grows := grows
  strikes := nofun

/-! ## Rules for acts that are put together -/

/-- The second act runs from where the first one came to. -/
theorem bind' {act : Run α} {f : α → Run β} (first : Course act st)
    (rest : ∀ a st', act.run st = (.ok a, st') → Course (f a) st') : Course (act >>= f) st := by
  have grows := first.grows
  have strikes := first.strikes
  refine ⟨?_, ?_⟩
  · rw [run_bind]
    rcases ran : act.run st with ⟨stop | a, st'⟩
    · rw [ran] at grows
      exact grows
    · rw [ran] at grows
      exact grows.trans (rest a st' ran).grows
  · intro target signal
    rw [run_bind]
    rcases ran : act.run st with ⟨stop | a, st'⟩
    · intro h
      rw [ran] at strikes
      exact strikes target signal (by cases h; rfl)
    · intro h
      rw [ran] at grows
      exact grows.strikes_iff.mp ((rest a st' ran).strikes target signal h)

theorem bind {act : Run α} {f : α → Run β} (first : Course act st) (rest : ∀ a, Steady (f a)) :
    Course (act >>= f) st :=
  first.bind' fun a st' _ => rest a st'

theorem get_bind {f : State → Run α} (h : Course (f st) st) : Course (get >>= f) st :=
  ⟨h.grows, h.strikes⟩

theorem set_bind {f : PUnit → Run α} (grows : st.ledger.Grows st'.ledger)
    (rest : Course (f ⟨⟩) st') : Course (set st' >>= f) st :=
  (of_set grows).bind' fun _ _ ran => by
    cases ran
    exact rest

theorem modify_bind {change : State → State} {f : PUnit → Run α}
    (grows : st.ledger.Grows (change st).ledger) (rest : Course (f ⟨⟩) (change st)) :
    Course (modify change >>= f) st :=
  (of_modify grows).bind' fun _ _ ran => by
    cases ran
    exact rest

/-- What comes of an act is put in the place of the state, and only then compared with the
state before it. -/
theorem bind_modify_bind {act : Run α} {change : α → State → State} {f : α → PUnit → Run β}
    (first : Course act st) (grows : ∀ a st', act.run st = (.ok a, st') →
      st.ledger.Grows (change a st').ledger) (rest : ∀ a, Steady (f a ⟨⟩)) :
    Course (act >>= fun a => modify (change a) >>= f a) st := by
  have early := first.grows
  have strikes := first.strikes
  rcases ran : act.run st with ⟨stop | a, st'⟩
  · rw [ran] at early strikes
    refine ⟨?_, ?_⟩
    · rw [run_bind, ran]
      exact early
    · intro target signal h
      rw [run_bind, ran] at h
      exact strikes target signal (by cases h; rfl)
  · have late := rest a (change a st')
    have same : (act >>= fun a => modify (change a) >>= f a).run st =
        (f a ⟨⟩).run (change a st') := by
      rw [run_bind, ran]
      rfl
    refine ⟨?_, ?_⟩
    · rw [same]
      exact (grows a st' ran).trans late.grows
    · intro target signal h
      rw [same] at h
      exact (grows a st' ran).strikes_iff.mp (late.strikes target signal h)

theorem throw_bind {stop : Stop} {f : α → Run β} (mild : Mild stop st) :
    Course (throw stop >>= f) st :=
  (of_throw mild).bind' nofun

theorem map {act : Run α} (f : α → β) (h : Course act st) : Course (f <$> act) st := by
  have grows := h.grows
  have strikes := h.strikes
  refine ⟨?_, ?_⟩
  · rw [run_map]
    rcases ran : act.run st with ⟨stop | a, st'⟩ <;> (rw [ran] at grows; exact grows)
  · intro target signal
    rw [run_map]
    rcases ran : act.run st with ⟨stop | a, st'⟩
    · intro h
      rw [ran] at strikes
      exact strikes target signal (by cases h; rfl)
    · exact nofun

theorem discard {act : Run α} (h : Course act st) : Course (discard act) st := h.map _

theorem ite {c : Prop} [Decidable c] {act act' : Run α} (yes : c → Course act st)
    (no : ¬c → Course act' st) : Course (if c then act else act') st := by
  split
  · exact yes ‹c›
  · exact no ‹¬c›

/-- Something is done first if that is asked for. -/
theorem ite_bind {c : Prop} [Decidable c] {act : Run Unit} {f : Unit → Run β}
    (first : Course act st) (rest : ∀ a, Steady (f a)) :
    Course (if c then act >>= f else f ()) st :=
  ite (fun _ => first.bind rest) fun _ => rest () st

/-- A stop that was held up is handed on, or something is done instead. -/
theorem tryCatch {act : Run α} {handler : Stop → Run α} (first : Course act st)
    (held : ∀ stop st', Mild stop st' → Course (handler stop) st') :
    Course (tryCatch act handler) st := by
  have grows := first.grows
  have strikes := first.strikes
  rcases ran : act.run st with ⟨stop | a, st'⟩
  · rw [ran] at grows strikes
    have mild : Mild stop st' := by
      intro target signal same
      exact grows.strikes_iff.mpr (strikes target signal (congrArg Except.error same))
    have rest := held stop st' mild
    refine ⟨?_, ?_⟩
    · rw [run_tryCatch, ran]
      exact grows.trans rest.grows
    · intro target signal h
      rw [run_tryCatch, ran] at h
      exact grows.strikes_iff.mp (rest.strikes target signal h)
  · rw [ran] at grows
    refine ⟨?_, ?_⟩
    · rw [run_tryCatch, ran]
      exact grows
    · intro target signal h
      rw [run_tryCatch, ran] at h
      cases h

end Course

/-! ## Rules for acts that are steady -/

namespace Steady

theorem pure (a : α) : Steady (pure a : Run α) := fun _ => .of_pure a

theorem throw {stop : Stop} (mild : ∀ target signal, stop ≠ .killed target signal) :
    Steady (throw stop : Run α) :=
  fun _ => .of_throw fun target signal same => absurd same (mild target signal)

theorem modify {change : State → State} (grows : ∀ st : State, st.ledger.Grows (change st).ledger) :
    Steady (modify change : Run PUnit) := fun st => .of_modify (grows st)

theorem bind {act : Run α} {f : α → Run β} (first : Steady act) (rest : ∀ a, Steady (f a)) :
    Steady (act >>= f) := fun st => (first st).bind rest

theorem get_bind {f : State → Run α} (h : ∀ st, Course (f st) st) : Steady (get >>= f) :=
  fun st => .get_bind (h st)

theorem map {act : Run α} (f : α → β) (h : Steady act) : Steady (f <$> act) :=
  fun st => (h st).map f

theorem discard {act : Run α} (h : Steady act) : Steady (discard act) := fun st => (h st).discard

theorem ite {c : Prop} [Decidable c] {act act' : Run α} (yes : Steady act) (no : Steady act') :
    Steady (if c then act else act') := fun st => .ite (fun _ => yes st) fun _ => no st

theorem ite_bind {c : Prop} [Decidable c] {act : Run Unit} {f : Unit → Run β}
    (first : Steady act) (rest : ∀ a, Steady (f a)) :
    Steady (if c then act >>= f else f ()) := fun st => (first st).ite_bind rest

theorem tryCatch {act : Run α} {handler : Stop → Run α} (first : Steady act)
    (held : ∀ stop st, Mild stop st → Course (handler stop) st) : Steady (tryCatch act handler) :=
  fun st => (first st).tryCatch held

theorem mapM {f : α → Run β} (each : ∀ a, Steady (f a)) (as : List α) : Steady (as.mapM f) := by
  induction as with
  | nil => exact pure []
  | cons a as ih =>
    rw [List.mapM_cons]
    exact (each a).bind fun b => ih.bind fun bs => pure (b :: bs)

theorem forM {f : α → Run PUnit} (each : ∀ a, Steady (f a)) (as : List α) : Steady (as.forM f) := by
  induction as with
  | nil => exact pure PUnit.unit
  | cons a as ih => exact (each a).bind fun _ => ih

theorem anyM {f : α → Run Bool} (each : ∀ a, Steady (f a)) (as : List α) : Steady (as.anyM f) := by
  induction as with
  | nil => exact pure false
  | cons a as ih =>
    refine (each a).bind ?_
    intro found
    cases found with
    | true => exact pure true
    | false => exact ih

theorem forIn {f : α → β → Run (ForInStep β)} (each : ∀ a b, Steady (f a b)) (as : List α) (b : β) :
    Steady (forIn as b f) := by
  induction as generalizing b with
  | nil => exact pure b
  | cons a as ih =>
    rw [List.forIn_cons]
    refine (each a b).bind ?_
    intro step
    cases step with
    | done b => exact pure b
    | yield b => exact ih b

end Steady

/-! ## The acts of which all others are made -/

theorem ledger_withVariable (st : State) (name : String) (v : Option Variable) :
    (st.withVariable name v).ledger = st.ledger := rfl

theorem ledger_withText (st : State) (text : Nat) (contents : List Char) :
    (st.withText text contents).ledger = st.ledger := by
  simp [State.withText, State.ledger]

theorem ledger_withMore (st : State) (text : Nat) (more : List Char) :
    (st.withMore text more).ledger = st.ledger := by
  simp [State.withMore, State.ledger]

theorem ledger_withHome (st : State) (text : Nat) : (st.withHome text).ledger = st.ledger := by
  unfold State.withHome
  split <;> rfl

theorem ledger_withInput (st : State) (contents : List Char) :
    (st.withInput contents).ledger = st.ledger := by
  unfold State.withInput
  split
  · exact ledger_withText st _ contents
  · rfl

theorem grows_withNewText (st : State) (stream : Nat) (channel : Nat → Channel)
    (contents : List Char) :
    st.ledger.Grows (st.withNewText stream channel contents).ledger :=
  { Ledger.Grows.refl st.ledger with
    texts := by
      show st.texts.length ≤ (st.texts ++ [Passage.mk contents []]).length
      rw [List.length_append]
      exact Nat.le_add_right _ _ }

theorem steady_leaveStatus (status : Nat) : Steady (leaveStatus status) :=
  .modify fun st => .refl st.ledger

theorem steady_fault : Steady (fault : Run α) :=
  (steady_leaveStatus 2).bind fun _ => .throw nofun

/-- Nothing comes after a fault, so only what is done without one is to be looked at. -/
theorem Course.unless {c : Prop} [Decidable c] {f : α → Run β} {act : Run β}
    (fine : ¬c → Course act st) : Course (if c then fault >>= f else act) st := by
  exact .ite (fun _ => (steady_fault st).bind' nofun) fine

theorem steady_assign (name value : String) : Steady (assign name value) := by
  unfold assign
  apply Steady.get_bind
  intro st
  apply Course.unless
  intro _
  refine .set_bind (.of_eq (by rfl)) (.ite (fun _ => ?_) fun _ => .of_pure _)
  exact .of_modify (.refl _)

theorem steady_write (stream : Nat) (text : String) : Steady (write stream text) := by
  unfold write
  apply Steady.get_bind
  intro st
  split
  · refine .set_bind (.of_eq ?_) (.of_pure _)
    rw [ledger_withHome, ledger_withMore]
  all_goals exact .of_pure _

theorem steady_takeLine : Steady takeLine := by
  unfold takeLine
  apply Steady.get_bind
  intro st
  exact .set_bind (.of_eq (ledger_withInput ..)) (.of_pure _)

theorem steady_say (text : String) (status : Nat) : Steady (say text status) :=
  (steady_write 1 text).bind fun _ => steady_leaveStatus _

theorem steady_demandCount (word : String) : Steady (demandCount word) := by
  unfold demandCount
  split
  · exact .pure _
  · exact steady_fault

theorem steady_options (known : List Char) (words : List String) :
    Steady (options known words) := by
  induction words with
  | nil => exact .pure _
  | cons word rest ih =>
    unfold options
    split
    · exact .pure _
    · intro st
      apply Course.unless
      intro _
      exact (ih st).bind fun _ => .pure _
    · exact .pure _

end SubordinateIds.Shell
