import SubordinateIds.FileStatus
import SubordinateIds.Machine.Command
import SubordinateIds.Path.Map
import SubordinateIds.SystemError

/-
  Machines — what the program can ask of the computer it runs on

  A machine is described by what it answers: the files and directories at its
  paths, the accounts it knows, the caller's environment, and how the programs
  that are started on it end. The ends of a program are lined up; each run takes
  the first of them, and the last one stays for all later runs.

  Nothing that a machine answers is to be believed before it is checked.

  Correspondence (program ↔ model):
    `UserRecord`                  ↔ `Account`
    `LookupError`                 ↔ `LookupFault`
    `Entry`                       ↔ `Entry`
    `InMemorySystemOps`           ↔ `Machine`
    `MemoryOpenedFile`            ↔ `OpenFile`
    `open_read`                   ↔ `openFile`
    `stat`                        ↔ `status`
    `read_dir`                    ↔ `list`
    `user_by_uid`, `user_by_name` ↔ `accountByUid`, `accountByName`
    `env_var`                     ↔ `envValue?`
    `run`                         ↔ `run`
    `with_exit`                   ↔ `lineUp`

  The troubles of a file are what any other implementation of the interface may do besides.
  Reading that was interrupted is taken up again by the library and never seen here.
-/

namespace SubordinateIds

/-- A user account. -/
structure Account where
  name : String
  uid : UInt32
  deriving DecidableEq, Repr

/-- What a machine has at a path. -/
inductive Machine.Entry where
  | file (status : FileStatus) (contents : Octets)
  | directory (status : FileStatus) (names : List Octets)

/-- The status of a file or directory. -/
def Machine.Entry.status : Machine.Entry → FileStatus
  | .file status _ => status
  | .directory status _ => status

/-- What reading finds: a directory is empty. -/
def Machine.Entry.contents : Machine.Entry → Octets
  | .file _ contents => contents
  | .directory _ _ => []

/-- What goes wrong with a file once it is open: asking for its status, or
reading on after a number of octets. -/
structure Machine.Trouble where
  status : Option SystemError
  read : Option (Nat × SystemError)

/-- A computer as the program sees it. An entry may be one that cannot be had. -/
structure Machine where
  entries : PathMap (Except SystemError Machine.Entry)
  listingErrors : PathMap SystemError
  troubles : PathMap Machine.Trouble
  accounts : List Account
  lookupFailure : Option String
  environment : List (String × Octets)
  startErrors : PathMap SystemError
  exits : PathMap (List Exit)

/-- A file that was opened: its own status, what it holds, and after how many
octets reading it fails. -/
structure OpenFile where
  status : Except SystemError FileStatus
  contents : Octets
  readTrouble : Option (Nat × SystemError)

namespace OpenFile

/-- The failure that reading on after `count` octets meets. -/
def troubleAt? (f : OpenFile) (count : Nat) : Option SystemError :=
  match f.readTrouble with
  | some (after, error) => if count = after then some error else none
  | none => none

/-- Reads on until `limit` more octets are there or the file ends. `left` is what
the file still holds, `got` what was read so far, backwards, and `count` its
length. -/
def readFrom (f : OpenFile) : (limit count : Nat) → (left got : Octets) → Except SystemError Octets
  | 0, _, _, got => .ok got.reverse
  | limit + 1, count, left, got =>
    match f.troubleAt? count with
    | some error => .error error
    | none =>
      match left with
      | [] => .ok got.reverse
      | b :: left => readFrom f limit (count + 1) left (b :: got)

/-- The first `limit` octets of the file, or all of it if it is shorter. -/
def read (f : OpenFile) (limit : Nat) : Except SystemError Octets := f.readFrom limit 0 f.contents []

/-- Everything in the file. To see that it ends, one octet more is asked for than
there is. -/
def readAll (f : OpenFile) : Except SystemError Octets := f.read (f.contents.length + 1)

end OpenFile

namespace Machine

/-- A machine that has nothing. -/
def empty : Machine where
  entries := .empty
  listingErrors := .empty
  troubles := .empty
  accounts := []
  lookupFailure := none
  environment := []
  startErrors := .empty
  exits := .empty

instance : Inhabited Machine := ⟨empty⟩

/-- The ends of programs lined up by program, in the order given. -/
def lineUp (ends : List (Path × Exit)) : PathMap (List Exit) :=
  ends.foldl (fun queues e => queues.insert e.1 ((queues.get? e.1).getD [] ++ [e.2])) .empty

/-- What is at a path, or why it cannot be had. -/
def entry (m : Machine) (p : Path) : Except SystemError Entry :=
  (m.entries.get? p).getD (.error .notFound)

/-- The status of what is at a path. -/
def status (m : Machine) (p : Path) : Except SystemError FileStatus := do
  return (← m.entry p).status

/-- Opens what is at a path for reading. -/
def openFile (m : Machine) (p : Path) : Except SystemError OpenFile := do
  let e ← m.entry p
  let trouble := m.troubles.get? p
  return {
    status := match trouble.bind (·.status) with
      | some error => .error error
      | none => .ok e.status
    contents := e.contents
    readTrouble := trouble.bind (·.read) }

/-- The names in the directory at a path, in the order of the machine. -/
def list (m : Machine) (p : Path) : Except SystemError (List Octets) :=
  match m.listingErrors.get? p with
  | some error => .error error
  | none => do
    match ← m.entry p with
    | .directory _ names => return names
    | .file _ _ => throw .notADirectory

/-- A failed look into the accounts. -/
structure LookupFault where
  reason : String
  deriving DecidableEq, Repr

/-- The wording of a failed look into the accounts. -/
def LookupFault.message (f : LookupFault) : String := s!"user database lookup failed: {f.reason}"

/-- The first account that passes a test, if the accounts can be read. -/
def findAccount (m : Machine) (test : Account → Bool) : Except LookupFault (Option Account) :=
  match m.lookupFailure with
  | some reason => .error ⟨reason⟩
  | none => .ok (m.accounts.find? test)

/-- The account with a user id. -/
def accountByUid (m : Machine) (uid : UInt32) : Except LookupFault (Option Account) :=
  m.findAccount (·.uid == uid)

/-- The account with a name. -/
def accountByName (m : Machine) (name : String) : Except LookupFault (Option Account) :=
  m.findAccount (·.name == name)

/-- The value of a variable of the caller's environment; the last one given
counts. -/
def envValue? (m : Machine) (key : String) : Option Octets := m.environment.reverse.lookup key

/-- Starts a program and waits for its end. -/
def run (m : Machine) (program : Path) : Except SystemError Exit × Machine :=
  match m.startErrors.get? program with
  | some error => (.error error, m)
  | none =>
    match m.exits.get? program with
    | none | some [] => (.ok (.exited 0), m)
    | some [exit] => (.ok exit, m)
    | some (exit :: next :: rest) =>
      (.ok exit, { m with exits := m.exits.insert program (next :: rest) })

end Machine

end SubordinateIds
