import SubordinateIds.Shell.Arguments

/-
  Limits — how much of a thing the programs of a shell may use

  Each kind of limit has a letter. A limit holds, and it may be raised as far as another
  one says.
-/

namespace SubordinateIds.Shell

/-- Whether a limit that holds is not above the one up to which it may be raised. -/
def Limit.isSound (limit : Limit) : Bool :=
  match limit.current, limit.most with
  | _, none => true
  | none, some _ => false
  | some n, some most => n ≤ most

/-- How many files a program may have open, whatever it asks for. -/
def mostFiles : Nat := 1048576

/-- A kind of limit: its letter, what it is called, and the limit that there is at the
start, if there is one. -/
structure LimitKind where
  letter : Char
  name : String
  usual : Option Nat
  deriving DecidableEq, Repr

/-- The kinds of limits. -/
def limitKinds : List LimitKind := [
  ⟨'t', "time(seconds)", none⟩, ⟨'f', "file(blocks)", none⟩,
  ⟨'d', "data(kbytes)", none⟩, ⟨'s', "stack(kbytes)", some 8192⟩,
  ⟨'c', "coredump(blocks)", some 0⟩, ⟨'m', "memory(kbytes)", none⟩,
  ⟨'l', "locked memory(kbytes)", some 8192⟩, ⟨'p', "process", none⟩,
  ⟨'n', "nofiles", some mostFiles⟩, ⟨'v', "vmemory(kbytes)", none⟩,
  ⟨'w', "locks", none⟩, ⟨'r', "rtprio", some 0⟩]

namespace LimitKind

/-- The limit of a kind. Until one is set, the stack and the dumps may be raised at will. -/
def limit (kind : LimitKind) (st : State) : Limit :=
  (st.limits.lookup kind.letter).getD
    ⟨kind.usual, if kind.letter = 's' || kind.letter = 'c' then none else kind.usual⟩

/-- How the limit of a kind is shown. -/
def shown (kind : LimitKind) (st : State) (highest : Bool) : String :=
  let limit := kind.limit st
  ((if highest then limit.most else limit.current).map toString).getD "unlimited" ++ "\n"

end LimitKind

namespace Builtin

/-- The limit that a word spells, where `unlimited` is none at all. -/
def limitOf (word : String) : Run (Option Nat) :=
  if word = "unlimited" then return none
  else if word.toList.all Char.isDigit then return some (digitsValue 10 word.toList)
  else fault

/-- Sets limits of a kind. The one that holds may not be above the other. -/
def setLimit (kind : LimitKind) (current most : Bool) (value : Option Nat) : Run Unit := do
  let st ← get
  let old := kind.limit st
  let new : Limit := ⟨if current then value else old.current, if most then value else old.most⟩
  if !new.isSound || (kind.letter = 'n' && new.most.all (mostFiles < ·)) then fault
  set { st with
    limits := (kind.letter, new) :: st.limits.filter (·.1 != kind.letter), status := 0 }

/-- Shows or sets limits. The last letter of a kind among the options tells which. -/
def limit (words : List String) : Run Unit := do
  let letters := limitKinds.map (·.letter)
  let (given, words) ← options ('H' :: 'S' :: 'a' :: letters) words
  let letter := ((given.filter letters.elem).getLast?).getD 'f'
  let bound := (given.filter ['H', 'S'].elem).getLast?
  let all := given.elem 'a'
  let st ← get
  match words with
  | [] =>
    let highest := bound = some 'H'
    let line (kind : LimitKind) : String :=
      kind.name ++ String.ofList (List.replicate (20 - kind.name.length) ' ') ++ " " ++
        kind.shown st highest
    if all then say (String.join (limitKinds.map line)) 0
    else
      match limitKinds.find? (·.letter = letter) with
      | some kind => say (kind.shown st highest) 0
      | none => fault
  | [word] =>
    match if all then none else limitKinds.find? (·.letter = letter) with
    | some kind => setLimit kind (bound != some 'H') (bound != some 'S') (← limitOf word)
    | none => fault
  | _ => fault

end Builtin

end SubordinateIds.Shell
