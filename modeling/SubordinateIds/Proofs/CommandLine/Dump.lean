import SubordinateIds.Proofs.CommandLine.Conduct
import SubordinateIds.Proofs.Configuration.Rendering

/-
  Dumps — what is printed of a configuration

  A configuration is shown if nothing else is asked for beside it, if it can be loaded and
  if there is room for it. What is printed then is the rendering with one line feed at its
  end, whether or not the form ends with one itself. So the whole way from the machine to
  standard output can be gone back: what is printed is read as the configuration that was
  loaded.
-/

namespace SubordinateIds

namespace Invocation

variable {inv : Invocation} {machine : Machine} {printer : Printer}

/-- The invocation asks for nothing that does not go together with the configuration. -/
structure Alone (inv : Invocation) : Prop where
  user : inv.user = none
  subuid : inv.has .subuid = false
  subgid : inv.has .subgid = false

/-- What comes of an invocation that asks for the configuration: when it succeeds, and what
it prints then. -/
structure Dumps (inv : Invocation) (machine : Machine) (printer : Printer) : Prop where
  succeeds : (inv.run machine printer).exitCode = 0 ↔
    inv.Alone ∧ printer = .working ∧ ∃ c, (Loading.run machine .standard).result = .ok c
  prints : (inv.run machine printer).exitCode = 0 → ∃ c body n,
    (Loading.run machine .standard).result = .ok c ∧
      c.render (inv.form.getD .text) = body ++ String.ofList (List.replicate n '\n') ∧
      body.toList.getLast? ≠ some '\n' ∧ (inv.run machine printer).stdout = body ++ "\n"

theorem alone_or_conflict (inv : Invocation) :
    inv.Alone ∨ inv.user.isSome = true ∨ inv.has .subuid = true ∨ inv.has .subgid = true := by
  cases user : inv.user with
  | some => exact .inr (.inl rfl)
  | none =>
    cases subuid : inv.has .subuid with
    | true => exact .inr (.inr (.inl rfl))
    | false =>
      cases subgid : inv.has .subgid with
      | true => exact .inr (.inr (.inr rfl))
      | false => exact .inl ⟨user, subuid, subgid⟩

theorem not_alone
    (conflict : inv.user.isSome = true ∨ inv.has .subuid = true ∨ inv.has .subgid = true) :
    ¬inv.Alone := by
  intro alone
  obtain ⟨user, subuid, subgid⟩ := alone
  simp [user, subuid, subgid] at conflict

theorem run_dump (alone : inv.Alone) (s : Session) :
    inv.dump.run s = (((Loading.run s.machine .standard).result.mapError .loading).map fun c =>
      [String.ofList (Text.trimEnd (c.render (inv.form.getD .text)).toList)],
      s.loaded .standard) := by
  obtain ⟨user, subuid, subgid⟩ := alone
  unfold dump
  rw [user, subuid, subgid, if_neg (by decide), Act.run_bind, Act.run_adapt, Act.run_load]
  cases (Loading.run s.machine .standard).result <;> rfl

theorem run_of_ok_full {line : String} {lines : List String} {t : Session}
    (h : inv.performed machine = (.ok (line :: lines), t)) :
    inv.run machine .full = ⟨1, "", some (.notPrinted Printer.fullReason), t⟩ := by
  rw [performed] at h
  rw [run, h]
  rfl

theorem dumps_of_failed (failed : (inv.run machine printer).exitCode = 1)
    (reason : ¬(inv.Alone ∧ printer = .working ∧
      ∃ c, (Loading.run machine .standard).result = .ok c)) : inv.Dumps machine printer := by
  have nonzero : (inv.run machine printer).exitCode ≠ 0 := by
    rw [failed]
    decide
  refine ⟨?_, fun zero => absurd zero nonzero⟩
  constructor
  · exact fun zero => absurd zero nonzero
  · exact fun h => absurd h reason

theorem dumps (version : inv.has .version = false) (dump : inv.has .dumpConfig = true)
    (machine : Machine) (printer : Printer) : inv.Dumps machine printer := by
  have performs : inv.performed machine = inv.dump.run (.start machine (inv.has .debug)) := by
    rw [performed, perform_dump version dump]
  obtain alone | conflict := inv.alone_or_conflict
  case inr =>
    rw [run_dump_conflict conflict] at performs
    apply dumps_of_failed
    · rw [run_of_error printer performs]
    · exact fun h => absurd h.1 (not_alone conflict)
  rw [run_dump alone] at performs
  cases loaded : (Loading.run machine .standard).result with
  | error fault =>
    have loaded' : (Loading.run (Session.start machine (inv.has .debug)).machine .standard).result =
      .error fault := loaded
    rw [loaded'] at performs
    apply dumps_of_failed
    · rw [run_of_error printer performs]
    · simp [loaded]
  | ok c =>
    have loaded' : (Loading.run (Session.start machine (inv.has .debug)).machine .standard).result =
      .ok c := loaded
    rw [loaded'] at performs
    cases printer with
    | full =>
      apply dumps_of_failed
      · rw [run_of_ok_full performs]
      · simp
    | working =>
      obtain ⟨body, n, left, shown, noFeed⟩ := c.trimEnd_render (inv.form.getD .text)
      have ran := run_of_ok performs
      constructor
      · rw [ran]
        exact ⟨fun _ => ⟨alone, rfl, c, loaded⟩, fun _ => rfl⟩
      · intro _
        refine ⟨c, body, n, loaded, shown, noFeed, ?_⟩
        rw [ran, ← left]
        simp

/-- A configuration and what is shown of it determine each other. In each form its ten keys
are read in their order, each with what the configuration has there, so different
configurations are shown differently. In the text form all values begin in one column. And
where the program succeeds in showing a configuration, it prints the rendering of the one
that was loaded, up to the line feed that it ends with. -/
theorem dump_faithful :
    (∀ (c : Configuration) (form : Configuration.Form),
      form.read? (c.render form) = some (c.entries form.word) ∧
        (c.entries form.word).map Prod.fst = Key.all.map Key.spelling) ∧
      (∀ (form : Configuration.Form) (c d : Configuration), c.render form = d.render form → c = d) ∧
      (∃ column, (∀ key : Key, (key.spelling ++ ":").length < column) ∧
        ∀ c : Configuration, Text.Lines (c.render .text) (Key.all.map (c.row column))) ∧
      ∀ inv : Invocation, inv.has .version = false → inv.has .dumpConfig = true →
        ∀ machine printer, inv.Dumps machine printer := by
  refine ⟨fun c form => ⟨c.read?_render form, rfl⟩, ?_, ?_, ?_⟩
  · intro form c d same
    exact Configuration.render_inj same
  · refine ⟨Configuration.labelWidth + 1, ?_, fun c => c.lines_text⟩
    intro key
    exact Nat.lt_succ_of_le (Configuration.length_label_le key)
  · intro inv version dump machine printer
    exact dumps version dump machine printer

/-- What is printed at the desk is what the settings there come to, and it is not what any
other settings come to. -/
theorem dump_faithful_desk :
    let inv : Invocation := ⟨[.dumpConfig], none, some .toml, none⟩
    let c := { Configuration.default with uidMin := 500, allowWrap := true }
    let d := (c.applied "UID_MIN" "1000").applied "UID_MIN" "00500"
    inv.has .version = false ∧ inv.has .dumpConfig = true ∧
      (inv.run Session.desk .working).exitCode = 0 ∧
      (∃ body n, c.render .toml = body ++ String.ofList (List.replicate n '\n') ∧
        body.toList.getLast? ≠ some '\n' ∧
        (inv.run Session.desk .working).stdout = body ++ "\n") ∧
      d.render .json = c.render .json ∧ d = c := by
  intro inv c d
  obtain ⟨-, distinct, -, dumps⟩ := dump_faithful
  have version : inv.has .version = false := by decide
  have dump : inv.has .dumpConfig = true := by decide
  have succeeded : (inv.run Session.desk .working).exitCode = 0 := by decide +kernel
  have loaded : (Loading.run Session.desk .standard).result = .ok c := by decide +kernel
  have same : d.render .json = c.render .json := by decide +kernel
  obtain ⟨c', body, n, loaded', shown, noFeed, printed⟩ :=
    (dumps inv version dump Session.desk .working).prints succeeded
  cases loaded.symm.trans loaded'
  exact ⟨version, dump, succeeded, ⟨body, n, shown, noFeed, printed⟩, same, distinct .json d c same⟩

end Invocation

end SubordinateIds
