import SubordinateIds.LoginName
import SubordinateIds.Session

/-
  Identity — the user that an argument means

  An argument that is a strict decimal is a user id, and only that. Any other
  argument must be a login name before it is looked up. So an argument is looked
  up in exactly one way, or not at all.

  Correspondence (program ↔ model):
    `resolve_user`  ↔ `resolve`
    `ResolvedUser`  ↔ `Account`
    `IdentityError` ↔ `Fault`
-/

namespace SubordinateIds.Identity

/-- Why an argument means no user. -/
inductive Fault where
  | unknownUid (uid : UInt32)
  | unknownName (name : String)
  | badName (fault : LoginName.Fault)
  | lookup (fault : Machine.LookupFault)
  | emptyName (uid : UInt32)
  deriving DecidableEq, Repr

/-- The wording of a fault. -/
def Fault.message : Fault → String
  | .unknownUid uid => s!"no user with uid {uid}"
  | .unknownName name => s!"user not found: {name}"
  | .badName fault => s!"invalid username: {fault.message}"
  | .lookup fault => fault.message
  | .emptyName uid => s!"user with uid {uid} has an empty name"

/-- The account with a user id. -/
def ofUid (m : Machine) (uid : UInt32) : Except Fault Account :=
  match m.accountByUid uid with
  | .error fault => .error (.lookup fault)
  | .ok none => .error (.unknownUid uid)
  | .ok (some account) => if account.name.isEmpty then .error (.emptyName uid) else
    .ok ⟨account.name, uid⟩

/-- The account with a login name. -/
def ofName (m : Machine) (name : String) : Except Fault Account :=
  match LoginName.check name with
  | .error fault => .error (.badName fault)
  | .ok () =>
    match m.accountByName name with
    | .error fault => .error (.lookup fault)
    | .ok none => .error (.unknownName name)
    | .ok (some account) => .ok ⟨name, account.uid⟩

/-- The account that an argument means, and the trace of how it was found. -/
def find (m : Machine) (argument : String) : Except Fault (Account × Event) :=
  match Decimal.read argument with
  | .ok uid => (ofUid m uid).map fun account =>
    (account, .debug "user_resolved" s!"uid {uid} resolved to {account.name}")
  | .error _ => (ofName m argument).map fun account =>
    (account, .debug "user_resolved" s!"{argument} resolved to uid {account.uid}")

/-- Finds the account that an argument means. -/
def resolve (argument : String) : Act Fault Account := do
  let (account, event) ← Session.settle (find (← Session.machineNow) argument)
  Session.report [event]
  return account

end SubordinateIds.Identity
