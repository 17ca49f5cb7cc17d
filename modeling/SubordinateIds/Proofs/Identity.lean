import Mathlib.Data.List.Nodup
import SubordinateIds.Proofs.Assignment.Runs
import SubordinateIds.Proofs.LoginName

/-
  Identity — for an argument one question is asked, or none

  What the machine is asked about its accounts does not show in a result, so it is described
  by what a result depends on: a question is asked if no other answer of the machine counts,
  and if a failure to answer is the end of it (`Asks`). So described, the question is the one
  that the spelling of the argument leads to (`asks_iff_leads`): a number leads to the account
  with the number, a name to the account with the name, and anything else nowhere. No argument
  is both a number and a name, so there is one question at most.

  If no two accounts share a name or a number, then the name of an account and every way to
  write its number lead to the account.
-/

namespace SubordinateIds.Identity

/-- What a machine can be asked about its accounts. -/
inductive Question where
  | uid (uid : UInt32)
  | name (name : String)

/-- The answer of a machine. -/
def reply (m : Machine) : Question → Except Machine.LookupFault (Option Account)
  | .uid uid => m.accountByUid uid
  | .name name => m.accountByName name

/-- This question is asked for the argument, or none. What is found depends on nothing but the
answer, and if there is no answer then nothing is found for that reason. -/
structure Asks (argument : String) (q : Option Question) : Prop where
  only : ∀ m m' : Machine, (∀ x ∈ q, reply m x = reply m' x) → find m argument = find m' argument
  fails : ∀ m : Machine, ∀ x ∈ q, ∀ fault, reply m x = .error fault →
    find m argument = .error (.lookup fault)

variable {m : Machine} {argument : String} {uid : UInt32} {account : Account}
  {fault : LoginName.Fault} {q : Option Question}

/-! ## Numbers and names -/

theorem read_ne_of_named (named : LoginName.check argument = .ok ()) (uid : UInt32) :
    Decimal.read argument ≠ .ok uid :=
  (LoginName.check_eq_ok_iff.mp named).unmistakable.notNumber uid

theorem check_ne_of_digits (digits : ∀ c ∈ argument.toList, c.isDigit = true) :
    LoginName.check argument ≠ .ok () := by
  intro named
  obtain ⟨first, middle, last, letters, starts, -⟩ := (LoginName.check_eq_ok_iff.mp named).spelled
  rw [letters] at digits
  exact starts.ne.2 (digits first List.mem_cons_self)

/-- Where the spelling of an argument leads. -/
inductive Leads (argument : String) : Option Question → Prop where
  | number {uid : UInt32} (number : Decimal.read argument = .ok uid) :
      Leads argument (some (.uid uid))
  | name (named : LoginName.check argument = .ok ()) : Leads argument (some (.name argument))
  | nowhere {fault : LoginName.Fault} (other : ∀ uid, Decimal.read argument ≠ .ok uid)
      (refused : LoginName.check argument = .error fault) : Leads argument none

theorem exists_leads (argument : String) : ∃ q, Leads argument q := by
  cases number : Decimal.read argument with
  | ok uid => exact ⟨_, .number number⟩
  | error _ =>
    cases named : LoginName.check argument with
    | ok => exact ⟨_, .name named⟩
    | error fault => exact ⟨_, .nowhere (by simp [number]) named⟩

/-! ## What is found -/

theorem find_number (number : Decimal.read argument = .ok uid) (m : Machine) :
    find m argument = (ofUid m uid).map fun account =>
      (account, .debug "user_resolved" s!"uid {uid} resolved to {account.name}") := by
  rw [find, number]

theorem find_name (other : ∀ uid, Decimal.read argument ≠ .ok uid) (m : Machine) :
    find m argument = (ofName m argument).map fun account =>
      (account, .debug "user_resolved" s!"{argument} resolved to uid {account.uid}") := by
  cases number : Decimal.read argument with
  | ok uid => exact absurd number (other uid)
  | error _ => rw [find, number]

theorem find_neither (other : ∀ uid, Decimal.read argument ≠ .ok uid)
    (refused : LoginName.check argument = .error fault) (m : Machine) :
    find m argument = .error (.badName fault) := by
  rw [find_name other, ofName, refused]
  rfl

theorem ofUid_eq_ok_iff : ofUid m uid = .ok account ↔
    ∃ record, m.accountByUid uid = .ok (some record) ∧ record.name ≠ "" ∧
      account = ⟨record.name, uid⟩ := by
  unfold ofUid
  rcases m.accountByUid uid with fault | _ | record
  · simp
  · simp
  · simp only [Except.ok.injEq, Option.some.injEq, exists_eq_left', String.isEmpty_iff]
    by_cases empty : record.name = ""
    · simp [empty]
    · simp only [empty, if_false, Except.ok.injEq, ne_eq, not_false_eq_true, true_and]
      exact eq_comm

theorem ofName_eq_ok_iff {name : String} (named : LoginName.check name = .ok ()) :
    ofName m name = .ok account ↔
      ∃ record, m.accountByName name = .ok (some record) ∧ account = ⟨name, record.uid⟩ := by
  unfold ofName
  rw [named]
  rcases m.accountByName name with fault | _ | record
  · simp
  · simp
  · simp [eq_comm]

theorem fst_run_resolve (argument : String) (s : Session) :
    ((resolve argument).run s).1 = (find s.machine argument).map (·.1) := by
  obtain ⟨t, ran, -⟩ := Assignment.Run.run_resolve argument s
  rw [ran]

theorem resolve_number (number : Decimal.read argument = .ok uid) (s : Session) :
    ((resolve argument).run s).1 = ofUid s.machine uid := by
  rw [fst_run_resolve, find_number number]
  cases ofUid s.machine uid <;> rfl

theorem resolve_name (other : ∀ uid, Decimal.read argument ≠ .ok uid) (s : Session) :
    ((resolve argument).run s).1 = ofName s.machine argument := by
  rw [fst_run_resolve, find_name other]
  cases ofName s.machine argument <;> rfl

/-! ## The one question -/

/-- Nothing but the answer to the question that an argument leads to counts. -/
theorem Leads.asks (h : Leads argument q) : Asks argument q := by
  cases h with
  | @number uid number =>
    refine ⟨fun m m' same => ?_, fun m x asked fault failed => ?_⟩
    · have answer : m.accountByUid uid = m'.accountByUid uid := same _ rfl
      rw [find_number number, find_number number, ofUid, ofUid, answer]
    · cases asked
      have failed : m.accountByUid uid = .error fault := failed
      rw [find_number number, ofUid, failed]
      rfl
  | name named =>
    have other := read_ne_of_named named
    refine ⟨fun m m' same => ?_, fun m x asked fault failed => ?_⟩
    · have answer : m.accountByName argument = m'.accountByName argument := same _ rfl
      rw [find_name other, find_name other, ofName, ofName, named, answer]
    · cases asked
      have failed : m.accountByName argument = .error fault := failed
      rw [find_name other, ofName, named, failed]
      rfl
  | nowhere other refused =>
    refine ⟨fun m m' _ => ?_, fun m x asked => ?_⟩
    · rw [find_neither other refused, find_neither other refused]
    · cases asked

/-- A machine with one account. -/
def solo (account : Account) : Machine := { Machine.empty with accounts := [account] }

theorem Asks.exists_reply (h : Asks argument q)
    (found : find (solo account) argument ≠ find .empty argument) :
    ∃ x ∈ q, reply (solo account) x ≠ reply .empty x := by
  by_contra unasked
  simp only [not_exists, not_and, not_not] at unasked
  exact found (h.only _ _ unasked)

theorem reply_solo_uid_iff {uid : UInt32} :
    reply (solo account) (.uid uid) ≠ reply .empty (.uid uid) ↔ account.uid = uid := by
  by_cases same : account.uid = uid <;>
    simp [reply, solo, Machine.accountByUid, Machine.findAccount, Machine.empty, same]

theorem reply_solo_name_iff {name : String} :
    reply (solo account) (.name name) ≠ reply .empty (.name name) ↔ account.name = name := by
  by_cases same : account.name = name <;>
    simp [reply, solo, Machine.accountByName, Machine.findAccount, Machine.empty, same]

theorem Asks.eq_uid (h : Asks argument q) (number : Decimal.read argument = .ok uid) :
    q = some (.uid uid) := by
  have answers (name : String) (filled : name ≠ "") :
      ∃ x ∈ q, reply (solo ⟨name, uid⟩) x ≠ reply .empty x := by
    refine h.exists_reply ?_
    rw [find_number number, find_number number]
    simp [ofUid, solo, Machine.accountByUid, Machine.findAccount, Machine.empty, filled, Except.map]
  obtain ⟨x, rfl, first⟩ := answers "a" (by decide)
  obtain ⟨_, asked, second⟩ := answers "b" (by decide)
  cases asked
  cases x with
  | uid uid' =>
    have same : uid = uid' := reply_solo_uid_iff.mp first
    rw [same]
  | name name =>
    -- the two accounts do not have the same name
    have a : "a" = name := reply_solo_name_iff.mp first
    have b : "b" = name := reply_solo_name_iff.mp second
    exact absurd (a.trans b.symm) (by decide)

theorem Asks.eq_name (h : Asks argument q) (named : LoginName.check argument = .ok ()) :
    q = some (.name argument) := by
  have other := read_ne_of_named named
  have answers (uid : UInt32) : ∃ x ∈ q, reply (solo ⟨argument, uid⟩) x ≠ reply .empty x := by
    refine h.exists_reply ?_
    rw [find_name other, find_name other]
    simp [ofName, named, solo, Machine.accountByName, Machine.findAccount, Machine.empty,
      Except.map]
  obtain ⟨x, rfl, first⟩ := answers 0
  obtain ⟨_, asked, second⟩ := answers 1
  cases asked
  cases x with
  | name name =>
    have same : argument = name := reply_solo_name_iff.mp first
    rw [same]
  | uid uid =>
    have zero : 0 = uid := reply_solo_uid_iff.mp first
    have one : 1 = uid := reply_solo_uid_iff.mp second
    exact absurd (zero.trans one.symm) (by decide)

theorem Asks.eq_none (h : Asks argument q) (other : ∀ uid, Decimal.read argument ≠ .ok uid)
    (refused : LoginName.check argument = .error fault) : q = none := by
  cases q with
  | none => rfl
  | some x =>
    let broken : Machine := { Machine.empty with lookupFailure := some "" }
    have failed : reply broken x = .error ⟨""⟩ := by cases x <;> rfl
    have lost := h.fails broken x rfl _ failed
    rw [find_neither other refused] at lost
    cases lost

theorem Leads.eq_of_asks {q' : Option Question} (h : Leads argument q) (asks : Asks argument q') :
    q' = q := by
  cases h with
  | number number => exact asks.eq_uid number
  | name named => exact asks.eq_name named
  | nowhere other refused => exact asks.eq_none other refused

theorem asks_iff_leads : Asks argument q ↔ Leads argument q := by
  refine ⟨fun asks => ?_, Leads.asks⟩
  obtain ⟨q', leads⟩ := exists_leads argument
  rw [leads.eq_of_asks asks]
  exact leads

theorem existsUnique_asks (argument : String) : ∃! q, Asks argument q := by
  obtain ⟨q, leads⟩ := exists_leads argument
  exact ⟨q, leads.asks, fun q' asks => leads.eq_of_asks asks⟩

theorem asks_uid_iff : Asks argument (some (.uid uid)) ↔ Decimal.read argument = .ok uid := by
  rw [asks_iff_leads]
  refine ⟨fun leads => ?_, .number⟩
  cases leads with
  | number number => exact number

theorem asks_name_iff {name : String} :
    Asks argument (some (.name name)) ↔ name = argument ∧ LoginName.check argument = .ok () := by
  rw [asks_iff_leads]
  constructor
  · intro leads
    cases leads with
    | name named => exact ⟨rfl, named⟩
  · intro h
    obtain ⟨rfl, named⟩ := h
    exact .name named

/-! ## Accounts that are told apart -/

theorem findAccount_of_nodup {κ : Type} [BEq κ] [LawfulBEq κ] (key : Account → κ)
    (readable : m.lookupFailure = none) (distinct : (m.accounts.map key).Nodup)
    (mem : account ∈ m.accounts) :
    m.findAccount (fun other => key other == key account) = .ok (some account) := by
  rw [Machine.findAccount, readable]
  cases found : m.accounts.find? (fun other => key other == key account) with
  | none => exact absurd (beq_self_eq_true _) (List.find?_eq_none.mp found account mem)
  | some record =>
    have same : key record = key account := by simpa using List.find?_some found
    have there := List.mem_of_find?_eq_some found
    rw [List.inj_on_of_nodup_map distinct there mem same]

/-- The name of an account and every way to write its number come to the account, if it has a
valid name and shares neither with another account. -/
theorem resolve_eq_ok_of_mem {s : Session} (readable : s.machine.lookupFailure = none)
    (names : (s.machine.accounts.map (·.name)).Nodup)
    (uids : (s.machine.accounts.map (·.uid)).Nodup) (mem : account ∈ s.machine.accounts)
    (named : LoginName.check account.name = .ok ())
    (spelled : argument = account.name ∨ Decimal.read argument = .ok account.uid) :
    ((resolve argument).run s).1 = .ok account := by
  rcases spelled with rfl | number
  · rw [resolve_name (read_ne_of_named named), ofName_eq_ok_iff named]
    exact ⟨account, findAccount_of_nodup (·.name) readable names mem, rfl⟩
  · rw [resolve_number number, ofUid_eq_ok_iff]
    have filled := (LoginName.check_eq_ok_iff.mp named).unmistakable.filled
    exact ⟨account, findAccount_of_nodup (·.uid) readable uids mem, filled, rfl⟩

/-- Every argument is resolved in one way, and both ways agree. An argument is not both a
number and a name, and one question is asked for it or none: for the account with the number,
or else for the account with the name. Digits are never asked for as a name, and what is
neither a number nor a name is refused without a question. What a name comes to is the
argument with the number on record, and what a number comes to is the number with the name
on record, which is not empty. Among accounts of which no two share a name or a number, the
name of an account and its number, with any zeros in front, come to the account. -/
theorem resolve_decides :
    (∀ argument : String,
      (∀ uid, ¬(Decimal.read argument = .ok uid ∧ LoginName.check argument = .ok ())) ∧
      (∃! q, Asks argument q) ∧
      (∀ uid, Asks argument (some (.uid uid)) ↔ Decimal.read argument = .ok uid) ∧
      (∀ name, Asks argument (some (.name name)) ↔
        name = argument ∧ LoginName.check argument = .ok ()) ∧
      ((∀ c ∈ argument.toList, c.isDigit = true) → ∀ name, ¬Asks argument (some (.name name))) ∧
      ((∀ uid, Decimal.read argument ≠ .ok uid) →
        ∀ fault, LoginName.check argument = .error fault →
          Asks argument none ∧ ∀ s, ((resolve argument).run s).1 = .error (.badName fault)) ∧
      ∀ s account, ((resolve argument).run s).1 = .ok account →
        (Asks argument (some (.name argument)) ∧ ∃ record,
            s.machine.accountByName argument = .ok (some record) ∧
            account = ⟨argument, record.uid⟩) ∨
          ∃ uid, Asks argument (some (.uid uid)) ∧ ∃ record,
            s.machine.accountByUid uid = .ok (some record) ∧ record.name ≠ "" ∧
            account = ⟨record.name, uid⟩) ∧
      ∀ s : Session, s.machine.lookupFailure = none →
        (s.machine.accounts.map (·.name)).Nodup → (s.machine.accounts.map (·.uid)).Nodup →
        ∀ account ∈ s.machine.accounts, LoginName.check account.name = .ok () →
          ((resolve account.name).run s).1 = .ok account ∧
          ∀ (k : Nat) (number : String),
            number.toList = List.replicate k '0' ++ (toString account.uid).toList →
              ((resolve number).run s).1 = .ok account := by
  refine ⟨fun argument => ⟨?_, existsUnique_asks argument, fun uid => asks_uid_iff,
    fun name => asks_name_iff, ?_, ?_, ?_⟩, ?_⟩
  · intro uid both
    exact read_ne_of_named both.2 uid both.1
  · intro digits name asks
    exact check_ne_of_digits digits (asks_name_iff.mp asks).2
  · intro other fault refused
    refine ⟨asks_iff_leads.mpr (.nowhere other refused), fun s => ?_⟩
    rw [fst_run_resolve, find_neither other refused]
    rfl
  · intro s account resolved
    obtain ⟨q, leads⟩ := exists_leads argument
    cases leads with
    | number number =>
      rw [resolve_number number, ofUid_eq_ok_iff] at resolved
      exact .inr ⟨_, asks_uid_iff.mpr number, resolved⟩
    | name named =>
      rw [resolve_name (read_ne_of_named named), ofName_eq_ok_iff named] at resolved
      exact .inl ⟨asks_name_iff.mpr ⟨rfl, named⟩, resolved⟩
    | nowhere other refused =>
      rw [fst_run_resolve, find_neither other refused] at resolved
      cases resolved
  · intro s readable names uids account mem named
    refine ⟨resolve_eq_ok_of_mem readable names uids mem named (.inl rfl), ?_⟩
    intro k number spelled
    have reads : Decimal.read number = .ok account.uid :=
      Decimal.read_eq_ok_iff_zeros.mpr ⟨k, spelled⟩
    exact resolve_eq_ok_of_mem readable names uids mem named (.inr reads)

/-- A village with two people in it. -/
def village : Machine := { Machine.empty with accounts := [⟨"ann", 1000⟩, ⟨"bob", 7⟩] }

/-- Bob is found by his name and by his number. A number that is too large is nobody, and is
not taken for a name. -/
theorem resolve_decides_village :
    ((resolve "bob").run (.start village false)).1 = .ok ⟨"bob", 7⟩ ∧
      ((resolve "007").run (.start village false)).1 = .ok ⟨"bob", 7⟩ ∧
      Asks "4294967296" none ∧
      ((resolve "4294967296").run (.start village false)).1 =
        .error (.badName (.stray "4294967296" '4')) := by
  obtain ⟨arguments, accounts⟩ := resolve_decides
  obtain ⟨-, -, -, -, -, neither, -⟩ := arguments "4294967296"
  have large : Decimal.read "4294967296" = .error (.outOfRange "4294967296") := by decide +kernel
  obtain ⟨nobody, refused⟩ := neither (by simp [large]) (.stray "4294967296" '4')
    (by decide +kernel)
  obtain ⟨byName, byNumber⟩ := accounts (.start village false) rfl (by decide +kernel)
    (by decide +kernel) ⟨"bob", 7⟩ (by decide +kernel) (by decide +kernel)
  exact ⟨byName, byNumber 2 "007" (by decide +kernel), nobody, refused _⟩

end SubordinateIds.Identity
