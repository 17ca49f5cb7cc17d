import SubordinateIds.Proofs.Shell.Programs
import SubordinateIds.Shell.Execution

/-
  Runs — the courses of clauses, scripts and programs

  What a word stands for may need a script to be run, and a script runs commands, functions
  and programs, so all of these are steady together: for as much fuel as there is, by
  induction on it (`SteadyAt`).

  Three steps are more than the rules say of their parts. A copy of the shell has a number of
  its own, the next one, and what it left running has later ones, so the number may stand for
  a program that is left running itself (`grows_with_job`). The commands of a pipeline start at
  one time, so it goes on from the time before the first one, and ends at the latest
  (`steady_pipeline`). And what a program that takes the place of the one at hand is struck by
  strikes that one (`strikes_inPlace`).
-/

namespace SubordinateIds.Shell

variable {α β : Type} {st st' : State}

/-! ## Words -/

theorem steady_demanded (name : String) : Steady (demanded name) := by
  unfold demanded
  apply Steady.get_bind
  intro st
  split
  · exact .of_pure _
  · exact .ite (fun _ => steady_fault st) fun _ => .of_pure _

theorem steady_joinedText (pieces : List Piece) : Steady (joinedText pieces) :=
  .get_bind fun _ => .of_pure _

theorem steady_joinedPattern (pieces : List Piece) : Steady (joinedPattern pieces) :=
  .get_bind fun _ => .of_pure _

theorem steady_evaluate (text : String) : Steady (evaluate text) := by
  unfold evaluate
  apply Steady.get_bind
  intro st
  split
  · exact steady_fault st
  · split
    · exact steady_fault st
    · exact (Steady.forM (fun _ => steady_assign _ _) _ st).bind fun _ => .pure _

section Words

variable {script : List Clause → Run String} (scripts : ∀ clauses, Steady (script clauses))
include scripts

theorem steady_pieces (depth : Nat) :
    (∀ word, Steady (pieces script depth word)) ∧
      ∀ part, Steady (partPieces script depth part) := by
  induction depth with
  | zero => exact ⟨fun _ => steady_fault, fun _ => steady_fault⟩
  | succ depth ih =>
    obtain ⟨words, parts⟩ := ih
    refine ⟨fun word => (Steady.mapM parts word).bind fun _ => .pure _, fun part => ?_⟩
    cases part with
    | text quoted c => cases quoted <;> exact .pure _
    | mark => exact .pure _
    | output quoted clauses => exact (scripts clauses).bind fun _ => .pure _
    | sum quoted body =>
      refine (words body).bind fun pieces => (steady_joinedText pieces).bind fun text => ?_
      exact (steady_evaluate text).bind fun _ => .pure _
    | parameter quoted name use word =>
      apply Steady.get_bind
      intro st
      extract_lets found isSet other
      have others : Steady other := (words word).bind fun _ => .pure _
      clear_value isSet found
      cases use with
      | value =>
        cases found with
        | some pieces => exact .of_pure _
        | none => exact (steady_demanded name st).bind fun _ => .pure _
      | length => exact (steady_demanded name st).bind fun _ => .pure _
      | orElse nonempty => exact .ite (fun _ => .of_pure _) fun _ => others st
      | ifSet nonempty => exact .ite (fun _ => others st) fun _ => .of_pure _
      | assign nonempty =>
        refine .ite (fun _ => .of_pure _) fun _ => (others st).bind fun pieces => ?_
        refine (steady_joinedText pieces).bind fun value st => ?_
        apply Course.unless
        intro _
        exact (steady_assign name value st).bind fun _ => .pure _
      | demand nonempty => exact .ite (fun _ => .of_pure _) fun _ => steady_fault st
      | trim atEnd longest =>
        refine .ite_bind (steady_demanded name st).discard fun _ => ?_
        cases found with
        | some value =>
          refine (words word).bind fun pieces => (steady_joinedPattern pieces).bind fun _ => ?_
          exact .pure _
        | none => exact .pure _
      | unknown => exact steady_fault st

theorem steady_wordFields (word : Word) : Steady (wordFields script word) :=
  .get_bind fun st => ((steady_pieces scripts _).1 _ st).bind fun _ => .get_bind fun _ => .of_pure _

theorem steady_wordText (word : Word) : Steady (wordText script word) :=
  .get_bind fun st => ((steady_pieces scripts _).1 _ st).bind fun _ => steady_joinedText _

theorem steady_assignedText (word : Word) : Steady (assignedText script word) :=
  .get_bind fun st => ((steady_pieces scripts _).1 _ st).bind fun _ => steady_joinedText _

theorem steady_wordPattern (word : Word) : Steady (wordPattern script word) :=
  .get_bind fun st => ((steady_pieces scripts _).1 _ st).bind fun _ => steady_joinedPattern _

end Words

/-! ## What holds runs up and puts things back -/

theorem Course.always {act : Run α} {after : State → State} (h : Course act st)
    (back : ∀ st', st.ledger.Grows st'.ledger → st.ledger.Grows (after st').ledger) :
    Course (always act after) st where
  grows := back _ h.grows
  strikes := h.strikes

theorem Steady.always {act : Run α} {after : State → State} (h : Steady act)
    (back : ∀ st : State, st.ledger.Grows (after st).ledger) : Steady (always act after) :=
  fun st => (h st).always fun st' grows => grows.trans (back st')

theorem steady_forgiven {act : Run Unit} (h : Steady act) : Steady (forgiven act) := by
  refine .tryCatch h fun stop st mild => ?_
  cases stop with
  | fail => exact .of_pure _
  | _ => exact .of_throw mild

theorem steady_turn {body : Run Unit} (h : Steady body) : Steady (turn body) := by
  refine .tryCatch (h.bind fun _ => .pure _) fun stop st mild => ?_
  split
  · exact .of_pure _
  · exact .of_pure _
  · exact .of_throw fun _ _ => nofun
  · exact .of_throw fun _ _ => nofun
  · exact .of_throw mild

/-- A function that is left comes to its end. -/
theorem steady_left {act : Run Unit} (h : Steady act) :
    Steady (tryCatch act fun
      | .back => pure ()
      | stop => throw stop) := by
  refine .tryCatch h fun stop st mild => ?_
  cases stop with
  | back => exact .of_pure _
  | _ => exact .of_throw mild

theorem steady_isInPlace (setting : Setting) : Steady (isInPlace setting) :=
  .get_bind fun _ => .of_pure _

/-- Variables that are given back are no part of the ledger. -/
theorem ledger_giveBack (kept : List (String × Option Variable)) (st : State) :
    (kept.foldl (fun st e => st.withVariable e.1 e.2) st).ledger = st.ledger := by
  induction kept generalizing st with
  | nil => rfl
  | cons e kept ih => exact (ih _).trans (ledger_withVariable st e.1 e.2)

/-! ## Names and what they stand for -/

theorem steady_describe (long : Bool) (names : List String) : Steady (describe long names) :=
  .get_bind fun st => steady_say _ _ st

theorem steady_showCommand (words : List String) : Steady (showCommand words) :=
  (steady_options _ _).bind fun _ => .ite (steady_describe _ _) (steady_leaveStatus 0)

theorem steady_remember (words : List String) : Steady (remember words) :=
  (steady_options _ _).bind fun _ => .get_bind fun st => steady_leaveStatus _ st

theorem steady_startWords (fuel : Nat) (script stream : Bool) (words : List String) :
    Steady (startWords fuel script stream words) := by
  induction fuel generalizing script stream words with
  | zero => exact steady_fault
  | succ fuel ih =>
    cases words with
    | nil => exact .ite steady_fault (.pure _)
    | cons word rest =>
      unfold startWords
      extract_lets finish
      have finished (words : List String) : Steady (finish words) := by
        cases words with
        | nil => exact .ite steady_fault (.pure _)
        | cons first more => exact .ite (.pure _) (.ite (.pure _) (.pure _))
      split
      · exact finished rest
      · exact finished rest
      · have others (c : Char) : Steady (if c = 'c' || c = 'l' then pure () else fault) :=
          .ite (.pure _) steady_fault
        exact .ite (finished (word :: rest))
          ((steady_setLetters others _ _ _).bind fun rest => ih _ _ rest)
      · exact finished (word :: rest)

/-! ## Copies of a shell, and programs that are started -/

/-- What runs below another one starts with what that has, and with the numbers that were not
given yet. -/
theorem grows_after {start inner : State} (h : start.ledger.Grows inner.ledger)
    (texts : st.texts.length ≤ start.texts.length) (jobs : start.jobs = st.jobs)
    (lastNumber : st.lastNumber ≤ start.lastNumber) :
    st.ledger.Grows (st.after inner).ledger where
  number := rfl
  process := rfl
  parent := rfl
  callers := rfl
  ignored := rfl
  now := Nat.le_refl _
  lastNumber := Nat.le_trans lastNumber h.lastNumber
  texts := Nat.le_trans texts h.texts
  jobs := by
    obtain ⟨more, added, distinct, given⟩ := h.jobs
    refine ⟨more, ?_, distinct, ?_⟩
    · show inner.ledger.jobs = more ++ st.jobs.map (·.number)
      rw [added, ← jobs]
      rfl
    · intro n mem
      have later := (given n mem).1
      exact ⟨Nat.lt_of_le_of_lt lastNumber later, (given n mem).2⟩
  directory := id
  mask := id
  limits := id

/-- What strikes a program below, but not the one that was started, strikes one above. -/
theorem strikes_below {start : State} {waits : Bool} {target signal : Nat}
    (callers : start.callers = st.callersBelow waits) (other : target ≠ start.number)
    (strikes : start.ledger.Strikes target signal) : st.ledger.Strikes target signal where
  ends := strikes.ends
  taken := by
    rcases strikes.taken with ⟨same, -⟩ | ⟨caller, mem, same, taken⟩
    · exact absurd same other
    · have below : caller ∈ st.callersBelow waits := callers ▸ mem
      obtain ⟨above, among, rfl⟩ := List.mem_map.mp below
      rcases List.mem_cons.mp among with rfl | mem
      · exact .inl ⟨same, taken⟩
      · exact .inr ⟨above, mem, same, taken⟩

/-- What strikes a program that takes the place of another one strikes that one. -/
theorem strikes_inPlace {name : String} {environment : List (String × String)}
    {target signal : Nat} (strikes : (st.started st.number st.parent st.callers name
      environment).ledger.Strikes target signal) : st.ledger.Strikes target signal where
  ends := strikes.ends
  taken := by
    rcases strikes.taken with ⟨same, taken⟩ | above
    · exact .inl ⟨same, fun mem => taken (List.mem_append_left _ mem)⟩
    · exact .inr above

theorem course_statusAfter {number : Nat} {result : Except Stop Unit} {inner : State}
    (strikes : ∀ target signal, result = .error (.killed target signal) → target ≠ number →
      st.ledger.Strikes target signal) : Course (statusAfter number result inner) st := by
  unfold statusAfter
  split
  · rename_i target signal
    refine .ite (fun _ => .of_pure _) fun other => .of_throw ?_
    intro _ _ same
    cases same
    exact strikes target signal rfl other
  · exact .of_pure _

theorem state_of_statusAfter {number status : Nat} {result : Except Stop Unit} {inner : State}
    (ran : (statusAfter number result inner).run st = (.ok status, st')) : st = st' := by
  unfold statusAfter at ran
  split at ran
  · split at ran <;> cases ran
    rfl
  · cases ran
    rfl

/-- What is done to a copy of the shell before it runs leaves its place among the programs. -/
structure Prepares (prepare : State → State) : Prop where
  number : ∀ st, (prepare st).number = st.number
  callers : ∀ st, (prepare st).callers = st.callers
  now : ∀ st, (prepare st).now = st.now
  lastNumber : ∀ st, (prepare st).lastNumber = st.lastNumber
  texts : ∀ st, st.texts.length ≤ (prepare st).texts.length
  jobs : ∀ st, (prepare st).jobs = st.jobs

theorem prepares_id : Prepares id where
  number _ := rfl
  callers _ := rfl
  now _ := rfl
  lastNumber _ := rfl
  texts _ := Nat.le_refl _
  jobs _ := rfl

theorem prepares_output : Prepares fun st => st.withNewText 1 .writing [] where
  number _ := rfl
  callers _ := rfl
  now _ := rfl
  lastNumber _ := rfl
  texts st := (grows_withNewText st 1 .writing []).texts
  jobs _ := rfl

/-- What is left running reads nothing and is not struck from a terminal. -/
theorem prepares_background : Prepares fun st : State =>
    { st.withChannel 0 (.nothing true false) with
      ignored := 2 :: 3 :: st.ignored, answers := [], since := some (st.now + readyTime) } where
  number _ := rfl
  callers _ := rfl
  now _ := rfl
  lastNumber _ := rfl
  texts _ := Nat.le_refl _
  jobs _ := rfl

section Copies

variable {fuel : Nat} {prepare : State → State} {act : Run Unit}

/-- What a copy came to, after all that was done in it. -/
theorem grows_copy {waits : Bool} {inner : State} {result : Except Stop Unit}
    (endings : Steady (ending fuel act)) (prepares : Prepares prepare)
    (ran : (ending fuel act).run (prepare (st.copied waits)) = (result, inner)) :
    (prepare (st.copied waits)).ledger.Grows inner.ledger ∧
      st.ledger.Grows (st.after inner).ledger := by
  have grows := (endings (prepare (st.copied waits))).grows
  rw [ran] at grows
  refine ⟨grows, grows_after grows (prepares.texts (st.copied waits))
    (prepares.jobs (st.copied waits)) ?_⟩
  rw [prepares.lastNumber]
  exact Nat.le_succ st.lastNumber

theorem steady_copy (endings : Steady (ending fuel act)) (prepares : Prepares prepare)
    (waits : Bool) : Steady (copy (fuel + 1) waits prepare act) := by
  unfold copy
  apply Steady.get_bind
  intro st
  have strikes := (endings (prepare (st.copied waits))).strikes
  extract_lets start
  have callers : start.callers = st.callersBelow waits := prepares.callers _
  rcases ran : (ending fuel act).run start with ⟨result, inner⟩
  obtain ⟨within, grows⟩ := grows_copy endings prepares ran
  have now : st.now ≤ inner.now := by
    have now := within.now
    rw [State.ledger, prepares.now] at now
    exact now
  refine .set_bind grows ((course_statusAfter ?_).bind' ?_)
  · intro target signal same other
    rw [ran] at strikes
    exact grows.strikes_iff.mpr (strikes_below callers other (strikes target signal same))
  · intro status st' left
    obtain rfl := state_of_statusAfter left
    refine .ite (fun _ => .modify_bind ?_ (.of_pure _)) fun _ => .of_pure _
    rw [ledger_hearing, ledger_seeingEnds]
    exact { Ledger.Grows.refl (st.after inner).ledger with now := now }

/-- The number of a copy that is not waited for is a new one, and so are all that were given in
it. -/
theorem grows_with_job {inner : State} (endings : Steady (ending fuel act))
    (prepares : Prepares prepare)
    (ran : (copy (fuel + 1) false prepare act).run st = (.ok inner, st')) :
    st.ledger.Grows { st'.ledger with jobs := inner.number :: st'.ledger.jobs } := by
  rcases ended : (ending fuel act).run (prepare (st.copied false)) with ⟨result, done⟩
  obtain ⟨within, grows⟩ := grows_copy endings prepares ended
  have number : done.number = st.lastNumber + 1 := within.number.trans (prepares.number _)
  simp only [copy, run_bind, run_get, run_set, ended, Bool.false_eq_true, if_false] at ran
  split at ran
  · rename_i status st'' left
    obtain rfl := state_of_statusAfter left
    cases ran
    obtain ⟨more, added, distinct, given⟩ := within.jobs
    have last : (prepare (st.copied false)).lastNumber = st.lastNumber + 1 :=
      prepares.lastNumber _
    have counted : st.lastNumber + 1 ≤ done.lastNumber := last ▸ within.lastNumber
    have later (n : Nat) (mem : n ∈ more) : st.lastNumber + 1 < n ∧ n ≤ done.lastNumber := by
      rw [← last]
      exact given n mem
    have jobs : done.ledger.jobs = more ++ st.ledger.jobs := by
      rw [added, State.ledger, prepares.jobs]
      rfl
    refine { grows with jobs := ⟨done.number :: more, ?_, ?_, ?_⟩ }
    · exact congrArg (done.number :: ·) jobs
    · refine List.nodup_cons.mpr ⟨?_, distinct⟩
      intro mem
      have after := (later _ mem).1
      omega
    · intro n mem
      show st.lastNumber < n ∧ n ≤ done.lastNumber
      rcases List.mem_cons.mp mem with rfl | mem
      · omega
      · have := later n mem
        omega
  · cases ran

end Copies

/-! ## Everything at once -/

theorem mem_of_lookup {entries : List (String × α)} {name : String} {found : α}
    (h : entries.lookup name = some found) : (name, found) ∈ entries := by
  obtain ⟨before, rest, rfl, -⟩ := List.lookup_eq_some_iff.mp h
  exact List.mem_append_right before List.mem_cons_self

/-- With so much fuel, whatever is run is steady. -/
structure SteadyAt (fuel : Nat) : Prop where
  run : ∀ setting clause, Steady (run fuel setting clause)
  sequence : ∀ setting clauses, Steady (sequence fuel setting clauses)
  repeated : ∀ setting expected condition body last,
    Steady (repeated fuel setting expected condition body last)
  each : ∀ setting name body values, Steady (each fuel setting name body values)
  select : ∀ setting text branches, Steady (select fuel setting text branches)
  pipeline : ∀ setting clauses, Steady (pipeline fuel setting clauses)
  copy : ∀ {act prepare}, Steady act → Prepares prepare → ∀ waits,
    Steady (copy fuel waits prepare act)
  job : ∀ {act prepare}, Steady act → Prepares prepare → ∀ {st st' inner},
    (Shell.copy fuel false prepare act).run st = (.ok inner, st') →
      st.ledger.Grows { st'.ledger with jobs := inner.number :: st'.ledger.jobs }
  ending : ∀ {act}, Steady act → Steady (ending fuel act)
  settle : Steady (settle fuel)
  text : ∀ setting script, Steady (text fuel setting script)
  textFrom : ∀ setting script replaced, Steady (textFrom fuel setting script replaced)
  output : ∀ clauses, Steady (output fuel clauses)
  redirect : ∀ redirections, Steady (redirect fuel redirections)
  simple : ∀ setting assignments words redirections,
    Steady (simple fuel setting assignments words redirections)
  call : ∀ setting body args, Steady (call fuel setting body args)
  builtin : ∀ setting name args, Steady (builtin fuel setting name args)
  start : ∀ inPlace counts environment name args,
    Steady (start fuel inPlace counts environment name args)
  program : ∀ path place args, Steady (program fuel path place args)
  environ : ∀ atStart words, Steady (environ fuel atStart words)
  shell : ∀ words, Steady (shell fuel words)

theorem steady_leave : Steady (throw .leave : Run α) := .throw nofun

theorem steadyAt_zero : SteadyAt 0 where
  run _ _ := steady_leave
  sequence _ _ := steady_leave
  repeated _ _ _ _ _ := steady_leave
  each _ _ _ _ := steady_leave
  select _ _ _ := steady_leave
  pipeline _ _ := steady_leave
  copy _ _ _ := steady_leave
  job _ _ _ _ _ ran := by
    unfold Shell.copy at ran
    cases ran
  ending _ := steady_leave
  settle := steady_leave
  text _ _ := steady_leave
  textFrom _ _ _ := steady_leave
  output _ := steady_leave
  redirect _ := steady_leave
  simple _ _ _ _ := steady_leave
  call _ _ _ := steady_leave
  builtin _ _ _ := steady_leave
  start _ _ _ _ _ := steady_leave
  program _ _ _ := steady_leave
  environ _ _ := steady_leave
  shell _ := steady_leave

section Step

variable {fuel : Nat} (h : SteadyAt fuel)
include h

theorem steady_run (setting : Setting) (clause : Clause) :
    Steady (run (fuel + 1) setting clause) := by
  unfold run
  refine .get_bind fun st => .ite (fun _ => .of_pure _) fun _ => (h.settle st).bind fun _ => ?_
  extract_lets checked after
  have rest (checked : Bool) : Steady (after () checked) :=
    h.settle.bind fun _ => .get_bind fun st => .ite (fun _ => steady_leave st) fun _ => .of_pure _
  cases clause with
  | simple assignments words redirections =>
    exact (h.simple _ _ _ _).bind fun _ => rest _
  | pipeline members => exact (h.pipeline _ _).bind fun _ => rest _
  | negation body =>
    refine (h.run _ _).bind fun _ => Steady.bind (.modify fun st => ?_) fun _ => rest _
    exact .refl st.ledger
  | both first second =>
    refine (h.run _ _).bind fun _ => .get_bind fun st => .ite (fun _ => ?_) fun _ => rest _ st
    exact (h.run _ _ st).bind fun _ => rest _
  | either first second =>
    refine (h.run _ _).bind fun _ => .get_bind fun st => .ite (fun _ => ?_) fun _ => rest _ st
    exact (h.run _ _ st).bind fun _ => rest _
  | sequence body =>
    exact .ite_bind (steady_leaveStatus 0) fun _ => (h.sequence _ _).bind fun _ => rest _
  | background body =>
    intro st
    have copied := h.copy (h.run ⟨false, true⟩ body) prepares_background false st
    refine copied.bind_modify_bind (f := fun _ done => after done true) ?_ fun _ => rest _
    intro inner st' ran
    have job := h.job (h.run ⟨false, true⟩ body) prepares_background ran
    exact job
  | subshell body =>
    refine (steady_isInPlace setting).bind fun inPlace => .ite ?_ ?_
    · exact (h.run _ _).bind fun _ => rest _
    · exact (h.copy (h.run _ _) prepares_id true).discard.bind fun _ => rest _
  | choice condition yes no =>
    refine (h.run _ _).bind fun _ => .get_bind fun st => .ite (fun _ => ?_) fun _ => ?_
    · exact (h.run _ _ st).bind fun _ => rest _
    · cases no with
      | some no => exact (h.run _ _ st).bind fun _ => rest _
      | none => exact (steady_leaveStatus 0 st).bind fun _ => rest _
  | loop expected condition body =>
    refine .get_bind fun st => .modify_bind ?_ ?_
    · exact .refl st.ledger
    · refine Course.bind (.always (h.repeated _ _ _ _ _ _) fun st' grows => ?_) fun _ => rest _
      exact grows
  | each name words body =>
    dsimp -zeta only
    extract_lets looped
    have all (values : List String) : Steady (looped values) := by
      refine .get_bind fun before => .ite_bind (steady_leaveStatus 0 before) fun _ => ?_
      refine Steady.bind (.modify fun st => .refl st.ledger) fun _ => Steady.bind ?_ fun _ => rest _
      exact (h.each _ _ _ _).always fun st => .refl st.ledger
    cases words with
    | some words =>
      exact (Steady.mapM (steady_wordFields h.output) words).bind fun _ => all _
    | none => exact .get_bind fun st => all _ st
  | select word branches =>
    refine (steady_wordText h.output word).bind fun text => ?_
    exact (h.select _ _ _).bind fun _ => rest _
  | function name body =>
    refine Steady.bind (.modify fun st => ?_) fun _ => rest _
    exact .refl st.ledger
  | redirected body redirections =>
    refine .get_bind fun before => (h.redirect _ before).bind fun done => ?_
    refine Steady.bind (.always (.ite (.pure _) (h.run _ _)) fun st => ?_) fun _ => rest _
    exact .refl st.ledger

theorem steady_sequence (setting : Setting) (clauses : List Clause) :
    Steady (sequence (fuel + 1) setting clauses) := by
  cases clauses with
  | nil => exact .pure _
  | cons clause rest =>
    cases rest with
    | nil => exact h.run _ _
    | cons next rest => exact (h.run _ _).bind fun _ => h.sequence _ _

theorem steady_repeated (setting : Setting) (expected : Bool) (condition body : Clause)
    (last : Nat) : Steady (repeated (fuel + 1) setting expected condition body last) := by
  unfold repeated
  have looked : Steady (do
      run fuel .looked condition
      if ((← get).status == 0) != expected then
        leaveStatus last
        throw (.breakLoops 1)) := by
    refine (h.run _ _).bind fun _ => .get_bind fun st => .ite (fun _ => ?_) fun _ => .of_pure _
    exact (steady_leaveStatus last st).bind fun _ => .throw nofun
  refine (steady_turn looked).bind fun goesOn => .ite (.pure _) ?_
  refine (steady_turn (h.run _ _)).bind fun goesOn => .ite ?_ (.pure _)
  exact .get_bind fun st => h.repeated _ _ _ _ _ st

theorem steady_each (setting : Setting) (name : String) (body : Clause) (values : List String) :
    Steady (each (fuel + 1) setting name body values) := by
  cases values with
  | nil => exact .pure _
  | cons value values =>
    refine (steady_assign name value).bind fun _ => ?_
    exact (steady_turn (h.run _ _)).bind fun goesOn => .ite (h.each _ _ _ _) (.pure _)

theorem steady_select (setting : Setting) (text : List Char)
    (branches : List (List Word × Clause)) : Steady (select (fuel + 1) setting text branches) := by
  cases branches with
  | nil => exact steady_leaveStatus 0
  | cons branch branches =>
    have fits (word : Word) : Steady (do return (← wordPattern (output fuel) word).fits text) :=
      (steady_wordPattern h.output word).bind fun _ => .pure _
    exact (Steady.anyM fits branch.1).bind fun found => .ite (h.run _ _) (h.select _ _ _)

/-- The commands of a pipeline start at one time, and it ends when the last of them does. -/
theorem steady_pipeline (setting : Setting) (clauses : List Clause) :
    Steady (pipeline (fuel + 1) setting clauses) := by
  cases clauses with
  | nil => exact .pure _
  | cons body rest =>
    cases rest with
    | nil => exact (h.copy (h.run _ _) prepares_id true).discard
    | cons next rest =>
      apply Steady.get_bind
      intro before
      have copied := h.copy (h.run setting.atEnd body) prepares_output true before
      refine copied.bind_modify_bind ?_ fun first => ?_
      · intro first st' ran
        have grows := copied.grows
        rw [ran] at grows
        exact { grows with now := Nat.le_refl _ }
      · refine (h.pipeline _ _).always fun st => ?_
        exact { Ledger.Grows.refl st.ledger with now := Nat.le_max_left _ _ }

theorem steady_ending {act : Run Unit} (acts : Steady act) : Steady (ending (fuel + 1) act) := by
  unfold ending
  extract_lets hold
  have held (stop : Stop) (st : State) (mild : Mild stop st) : Course (hold stop) st := by
    cases stop with
    | killed target signal => exact .of_throw mild
    | _ => exact .of_pure _
  refine (Steady.tryCatch acts held).bind fun _ => .get_bind fun st => ?_
  split
  · exact .of_pure _
  · exact .of_pure _
  · refine .set_bind (.refl st.ledger) (Steady.tryCatch ?_ held _)
    exact (steady_left (h.text _ _).discard).bind fun _ => steady_leaveStatus _

theorem steady_settle : Steady (settle (fuel + 1)) := by
  unfold settle
  extract_lets again due
  have dues : Steady (due ()) := by
    apply Steady.get_bind
    intro st
    split
    · exact .of_pure _
    · rename_i signal _
      refine .set_bind (.refl st.ledger) ?_
      split
      · refine .modify_bind (.refl st.ledger) ((h.text _ _ _).discard.bind fun _ => ?_)
        exact Steady.bind (.modify fun st => .refl st.ledger) fun _ => h.settle
      · refine .ite (fun deadly => .throw_bind ?_) fun _ => h.settle _
        intro _ _ same
        cases same
        obtain ⟨ends, taken⟩ := isDeadly_spec deadly
        exact ⟨ends, .inl ⟨rfl, taken⟩⟩
  apply Steady.get_bind
  intro st
  split
  · refine .modify_bind ?_ (dues _)
    split <;> exact .refl st.ledger
  · exact dues st

theorem steady_textFrom (setting : Setting) (script : List Char) (replaced : List Replaced) :
    Steady (textFrom (fuel + 1) setting script replaced) := by
  unfold textFrom
  apply Steady.get_bind
  intro st
  split
  · exact steady_fault st
  · refine (Steady.forM (h.run setting) _ st).bind fun _ => .ite (.pure _) ?_
    exact (h.textFrom _ _ _).bind fun _ => .pure _

theorem steady_output (clauses : List Clause) : Steady (output (fuel + 1) clauses) := by
  unfold output
  apply Steady.get_bind
  intro st
  have acts : Steady (if clauses.isEmpty then leaveStatus 0
      else sequence fuel ⟨false, true⟩ clauses) := .ite (steady_leaveStatus 0) (h.sequence _ _)
  refine (h.copy acts prepares_output true st).bind fun _ => ?_
  exact Steady.bind (.modify fun st => .refl st.ledger) fun _ => .pure _

theorem steady_redirect (redirections : List Redirection) :
    Steady (redirect (fuel + 1) redirections) := by
  unfold redirect
  refine (Steady.mapM (fun redirection => ?_) _).bind fun targets => ?_
  · obtain ⟨stream, direction, word⟩ := redirection
    refine .ite (.pure _) ((steady_wordText h.output word).bind fun target st => ?_)
    exact .unless fun _ => .of_pure _
  · refine .tryCatch ((Steady.forM (fun e => ?_) _).bind fun _ => .pure _) fun stop st mild => ?_
    · obtain ⟨⟨stream, direction, word⟩, target⟩ := e
      dsimp only
      split
      · refine (steady_wordText h.output word).bind fun text => .modify fun st => ?_
        exact grows_withNewText st _ _ _
      · exact steady_copyStream _ _
      · exact steady_openStream _ _ _
    · cases stop with
      | fail => exact .of_pure _
      | _ => exact .of_throw mild

theorem steady_call (setting : Setting) (body : Clause) (args : List String) :
    Steady (call (fuel + 1) setting body args) := by
  unfold call
  apply Steady.get_bind
  intro before
  apply Course.unless
  intro _
  refine .set_bind (.refl before.ledger) ((steady_left (h.run _ _)).always (fun st => ?_) _)
  exact .of_eq (ledger_giveBack _ st)

theorem steady_simple (setting : Setting) (assignments : List (String × Word))
    (words : List Word) (redirections : List Redirection) :
    Steady (simple (fuel + 1) setting assignments words redirections) := by
  unfold simple
  refine Steady.bind (.modify fun st => ?_) fun _ => ?_
  · exact { Ledger.Grows.refl st.ledger with now := Nat.le_add_right _ _ }
  refine (Steady.mapM (steady_wordFields h.output) _).bind fun first => ?_
  extract_lets declares prepare
  have prepared : Steady prepare := by
    refine Steady.forM (fun e => ?_) assignments
    refine (steady_assignedText h.output e.2).bind fun value => ?_
    exact (steady_assign e.1 value).bind fun _ => .modify fun st => .refl st.ledger
  refine (Steady.mapM (fun word => ?_) _).bind fun others => ?_
  · exact .ite ((steady_assignedText h.output word).bind fun _ => .pure _)
      (steady_wordFields h.output word)
  extract_lets fields
  rcases stripCommand fields.length fields with ⟨fields, eased⟩
  apply Steady.get_bind
  intro before
  extract_lets isFunction special keeps restore kept giveBack called act rest
  have calls : Steady called := by
    unfold called
    split
    · exact .pure _
    · split
      · exact h.call _ _ _
      · exact h.builtin _ _ _
  have acts : Steady act := .ite calls (steady_forgiven calls)
  have rests : Steady (rest ()) := by
    refine .ite (Steady.bind ?_ fun _ => ?_) (.ite acts ?_)
    · refine Steady.forM (fun e => ?_) assignments
      exact (steady_assignedText h.output e.2).bind fun value => steady_assign e.1 value
    · split
      · exact .get_bind fun st => steady_leaveStatus _ st
      · exact h.builtin _ _ _
    · refine (prepared.bind fun _ => acts).always fun st => ?_
      exact .of_eq (ledger_giveBack _ st)
  refine Steady.always ((h.redirect _).bind fun done => .ite ?_ rests) (fun st => ?_) before
  · have failed : Steady (throw .fail : Run Unit) := .throw nofun
    exact (steady_leaveStatus 2).bind fun _ => .ite (failed.bind fun _ => rests) (.pure _)
  · unfold restore
    split <;> exact .refl st.ledger

theorem steady_builtin (setting : Setting) (name : String) (args : List String) :
    Steady (builtin (fuel + 1) setting name args) := by
  unfold builtin
  split
  · refine .ite (steady_leaveStatus 0) ((h.text _ _).bind fun found => ?_)
    exact .ite (steady_leaveStatus 0) (.pure _)
  · split
    · exact steady_leaveStatus 0
    · apply Steady.get_bind
      intro st
      extract_lets found
      split
      · rename_i read
        obtain ⟨path, -, read⟩ := Option.map_eq_some_iff.mp read
        refine .set_bind (.of_eq (ledger_of_readScript read)) (steady_left ?_ _)
        exact (h.text _ _).bind fun found => .ite (steady_leaveStatus 0) (.pure _)
      · exact steady_fault st
  · split
    · exact steady_leaveStatus 0
    · rename_i name args
      have started : Steady (α := Unit) (do
          start fuel true true (← get).shelvedEnvironment name args
          throw .leave) :=
        .get_bind fun st => (h.start _ _ _ _ _ st).bind fun _ => steady_leave
      refine .get_bind fun st => ?_
      split
      · exact .modify_bind (.refl st.ledger) (started _)
      · exact started st
  · exact steady_showCommand _
  · exact steady_describe _ _
  · exact steady_remember _
  · split
    · rename_i act found
      exact steady_of_mem_builtins (mem_of_lookup found) args
    · exact (steady_isInPlace _).bind fun _ => .get_bind fun st => h.start _ _ _ _ _ st

/-- What is started ends, or what strikes it strikes the program at hand as well, or one above
it. -/
theorem steady_start (inPlace counts : Bool) (environment : List (String × String))
    (name : String) (args : List String) :
    Steady (start (fuel + 1) inPlace counts environment name args) := by
  unfold start
  apply Steady.get_bind
  intro st
  split
  · exact steady_leaveStatus 127 st
  · exact steady_leaveStatus _ st
  · rename_i path place found
    extract_lets next fresh start
    have strikes := (h.program path place args start).strikes
    have within := (h.program path place args start).grows
    rcases ran : (program fuel path place args).run start with ⟨result, inner⟩
    rw [ran] at strikes within
    have same : start.texts = st.texts ∧ start.jobs = st.jobs ∧ start.now = st.now ∧
        st.lastNumber ≤ start.lastNumber := by
      cases inPlace with
      | true => exact ⟨rfl, rfl, rfl, Nat.le_refl _⟩
      | false => exact ⟨rfl, rfl, rfl, Nat.le_succ _⟩
    obtain ⟨texts, jobs, now, lastNumber⟩ := same
    have grows := grows_after within (Nat.le_of_eq (congrArg _ texts.symm)) jobs lastNumber
    refine .set_bind grows ((course_statusAfter ?_).bind' ?_)
    · intro target signal ended other
      have strikes := strikes target signal ended
      refine grows.strikes_iff.mpr ?_
      cases inPlace with
      | true => exact strikes_inPlace strikes
      | false => exact strikes_below rfl other strikes
    · intro status st' left
      obtain rfl := state_of_statusAfter left
      have later : st.now ≤ inner.now := now ▸ within.now
      refine .of_modify ?_
      dsimp only
      rw [ledger_seeingEnds]
      cases inPlace <;> exact { Ledger.Grows.refl (st.after inner).ledger with now := later }

theorem steady_program (path : String) (place : List Octets) (args : List String) :
    Steady (program (fuel + 1) path place args) := by
  unfold program
  split
  · exact h.shell _
  · exact steady_leaveStatus 1
  · exact .ite (steady_say _ 0) (h.environ _ _)
  · exact .ite (steady_say _ 0) (.ite (steady_leaveStatus 1) (steady_forgiven (steady_printf _)))
  · refine .ite (steady_say _ 0) ?_
    split
    · rename_i act found
      exact steady_forgiven (steady_of_mem_filters (mem_of_lookup found) args)
    · exact steady_forgiven (h.builtin _ _ _)
  · apply Steady.get_bind
    intro st
    extract_lets contents
    split
    · split
      · exact h.program _ _ _ st
      · exact steady_leaveStatus 127 st
      · exact steady_leaveStatus 126 st
    · exact h.shell _ st

theorem steady_environ (atStart : Bool) (words : List String) :
    Steady (environ (fuel + 1) atStart words) := by
  unfold environ
  split
  · exact .get_bind fun st => steady_say _ 0 st
  · exact Steady.bind (.modify fun st => .refl st.ledger) fun _ => h.environ _ _
  · exact Steady.bind (.modify fun st => .refl st.ledger) fun _ => h.environ _ _
  · exact Steady.bind (.modify fun st => .refl st.ledger) fun _ => h.environ _ _
  · exact h.environ _ _
  · refine .ite (steady_leaveStatus 125) (.ite ?_ ?_)
    · exact Steady.bind (.modify fun st => .refl st.ledger) fun _ => h.environ _ _
    · refine Steady.bind (.modify fun st => ?_) fun _ => .get_bind fun st => h.start _ _ _ _ _ st
      split <;> exact .refl st.ledger

theorem steady_shell (words : List String) : Steady (shell (fuel + 1) words) := by
  unfold shell
  refine h.ending (Steady.bind (.modify fun st => .refl st.ledger) fun _ => ?_)
  refine (steady_startWords _ _ _ _).bind fun read => ?_
  obtain ⟨source, name, args⟩ := read
  refine Steady.bind (.modify fun st => .refl st.ledger) fun _ => ?_
  cases source with
  | text script => exact (h.text _ _).discard
  | input =>
    refine .get_bind fun st => .set_bind (.of_eq ?_) ((h.text _ _).discard _)
    exact ledger_withInput st []
  | file path =>
    apply Steady.get_bind
    intro st
    split
    · rename_i read
      exact .set_bind (.of_eq (ledger_of_readScript read)) ((h.text _ _).discard _)
    · exact (steady_leaveStatus 2 st).bind fun _ => steady_leave

theorem steadyAt_succ : SteadyAt (fuel + 1) where
  run := steady_run h
  sequence := steady_sequence h
  repeated := steady_repeated h
  each := steady_each h
  select := steady_select h
  pipeline := steady_pipeline h
  copy acts := steady_copy (h.ending acts)
  job acts prepares _ _ _ ran := grows_with_job (h.ending acts) prepares ran
  ending := steady_ending h
  settle := steady_settle h
  text _ _ := h.textFrom _ _ _
  textFrom := steady_textFrom h
  output := steady_output h
  redirect := steady_redirect h
  simple := steady_simple h
  call := steady_call h
  builtin := steady_builtin h
  start := steady_start h
  program := steady_program h
  environ := steady_environ h
  shell := steady_shell h

end Step

/-- However much fuel there is, all that runs is steady. -/
theorem steadyAt (fuel : Nat) : SteadyAt fuel := by
  induction fuel with
  | zero => exact steadyAt_zero
  | succ fuel ih => exact steadyAt_succ ih

end SubordinateIds.Shell
