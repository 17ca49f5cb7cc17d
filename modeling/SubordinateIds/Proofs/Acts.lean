import SubordinateIds.Session

/-
  Acts — the rules by which an act runs

  A run of an act from a session gives a value or a failure, and the session after
  it. Each primitive act has one equation here, and `run_bind` says how two acts
  follow one another. `bind_cases` is the same read backwards: whatever an act of
  two parts came to, either the first part failed and the second was never begun,
  or the second began in the session that the first one left.

  With these rules no later proof opens an act below its own steps.
-/

namespace SubordinateIds

namespace Session

/-- The session after events were reported. -/
def told (s : Session) (events : List Event) : Session :=
  { s with journal := s.journal.recordAll events }

/-- The session after a command was started. -/
def started (s : Session) (c : Command) : Session :=
  { s with machine := (s.machine.run c.program).2, commands := s.commands.push c }

/-- The session after the configuration was loaded. -/
def loaded (s : Session) (sources : Sources) : Session :=
  { s with
    opened := s.opened ++ (Loading.run s.machine sources).opened.toArray
    journal := s.journal.recordAll (Loading.run s.machine sources).events }

@[simp] theorem told_machine (s : Session) (es : List Event) : (s.told es).machine = s.machine := rfl

@[simp] theorem told_commands (s : Session) (es : List Event) :
    (s.told es).commands = s.commands := rfl

@[simp] theorem told_opened (s : Session) (es : List Event) : (s.told es).opened = s.opened := rfl

@[simp] theorem told_verbose (s : Session) (es : List Event) :
    (s.told es).journal.verbose = s.journal.verbose := by
  simp [told, Journal.verbose]

@[simp] theorem started_journal (s : Session) (c : Command) :
    (s.started c).journal = s.journal := rfl

@[simp] theorem loaded_machine (s : Session) (sources : Sources) :
    (s.loaded sources).machine = s.machine := rfl

@[simp] theorem loaded_commands (s : Session) (sources : Sources) :
    (s.loaded sources).commands = s.commands := rfl

@[simp] theorem loaded_verbose (s : Session) (sources : Sources) :
    (s.loaded sources).journal.verbose = s.journal.verbose := by
  simp [loaded, Journal.verbose]

end Session

namespace Act

variable {ε ε' α β : Type}

@[simp] theorem run_pure (a : α) (s : Session) : (pure a : Act ε α).run s = (.ok a, s) := rfl

@[simp] theorem run_throw (e : ε) (s : Session) : (throw e : Act ε α).run s = (.error e, s) := rfl

theorem run_bind (x : Act ε α) (f : α → Act ε β) (s : Session) :
    (x >>= f).run s = match x.run s with
      | (.ok a, t) => (f a).run t
      | (.error e, t) => (.error e, t) := by
  have first : (x >>= f).run s = match x.run s with | (r, t) => ExceptT.bindCont f r t := rfl
  rw [first]
  rcases x.run s with ⟨e | a, t⟩ <;> rfl

theorem run_adapt (f : ε → ε') (x : Act ε α) (s : Session) :
    (x.adapt f : Act ε' α).run s = ((x.run s).1.mapError f, (x.run s).2) := rfl

@[simp] theorem mapError_ok (f : ε → ε') (a : α) : (Except.ok a).mapError f = .ok a := rfl

@[simp] theorem mapError_error (f : ε → ε') (e : ε) :
    (Except.error e : Except ε α).mapError f = .error (f e) := rfl

@[simp] theorem run_settle (r : Except ε α) (s : Session) :
    (Session.settle r : Act ε α).run s = (r, s) := rfl

@[simp] theorem run_machineNow (s : Session) :
    (Session.machineNow : Act ε Machine).run s = (.ok s.machine, s) := rfl

@[simp] theorem run_isVerbose (s : Session) :
    (Session.isVerbose : Act ε Bool).run s = (.ok s.journal.verbose, s) := rfl

@[simp] theorem run_report (events : List Event) (s : Session) :
    (Session.report events : Act ε Unit).run s = (.ok (), s.told events) := rfl

@[simp] theorem run_execute (c : Command) (s : Session) :
    (Session.execute c).run s = ((s.machine.run c.program).1, s.started c) := rfl

@[simp] theorem run_load (sources : Sources) (s : Session) :
    (Session.load sources).run s = ((Loading.run s.machine sources).result, s.loaded sources) := rfl

/-! What a first step that cannot fail hands on. With these, `simp` goes through an act
up to the first step whose outcome is open. They hold by `rfl` too, but with that proof the
kernel would have to unfold the whole act once more wherever they are used. -/

@[simp] theorem run_settle_ok_bind (a : α) (f : α → Act ε β) (s : Session) :
    (Session.settle (.ok a) >>= f).run s = (f a).run s := by
  rw [run_bind, run_settle]

@[simp] theorem run_settle_error_bind (e : ε) (f : α → Act ε β) (s : Session) :
    (Session.settle (.error e) >>= f).run s = (.error e, s) := by
  rw [run_bind, run_settle]

@[simp] theorem run_machineNow_bind (f : Machine → Act ε β) (s : Session) :
    (Session.machineNow >>= f).run s = (f s.machine).run s := by
  rw [run_bind, run_machineNow]

@[simp] theorem run_isVerbose_bind (f : Bool → Act ε β) (s : Session) :
    (Session.isVerbose >>= f).run s = (f s.journal.verbose).run s := by
  rw [run_bind, run_isVerbose]

@[simp] theorem run_report_bind (events : List Event) (f : Unit → Act ε β) (s : Session) :
    (Session.report events >>= f).run s = (f ()).run (s.told events) := by
  rw [run_bind, run_report]

/-- Of two acts, either the first failed and nothing followed, or the second ran
on from where the first one ended. -/
theorem bind_cases {x : Act ε α} {f : α → Act ε β} {s u : Session} {r : Except ε β}
    (h : (x >>= f).run s = (r, u)) :
    (∃ e, x.run s = (.error e, u) ∧ r = .error e) ∨
      ∃ a t, x.run s = (.ok a, t) ∧ (f a).run t = (r, u) := by
  rw [run_bind] at h
  rcases hx : x.run s with ⟨e | a, t⟩
  · rw [hx] at h
    obtain ⟨rfl, rfl⟩ := Prod.mk.inj h
    exact .inl ⟨e, rfl, rfl⟩
  · rw [hx] at h
    exact .inr ⟨a, t, rfl, h⟩

theorem adapt_bind_cases {g : ε → ε'} {x : Act ε α} {f : α → Act ε' β} {s u : Session}
    {r : Except ε' β} (h : (x.adapt g >>= f).run s = (r, u)) :
    ∃ r₀ t, x.run s = (r₀, t) ∧
      ((∃ e, r₀ = .error e ∧ r = .error (g e) ∧ u = t) ∨
        ∃ a, r₀ = .ok a ∧ (f a).run t = (r, u)) := by
  rcases hx : x.run s with ⟨r₀, t⟩
  rw [run_bind, run_adapt, hx] at h
  refine ⟨r₀, t, rfl, ?_⟩
  cases r₀ with
  | error e =>
    obtain ⟨rfl, rfl⟩ := Prod.mk.inj h
    exact .inl ⟨e, rfl, rfl, rfl⟩
  | ok a => exact .inr ⟨a, rfl, h⟩

end Act

end SubordinateIds
