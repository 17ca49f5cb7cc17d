import SubordinateIds.Shell.Streams

/-
  Programs — how they are found, and the state in which a shell starts

  A name with a slash is a path. Any other name is looked for in the directories of
  the search path, one after the other; only a file that may be run counts.
-/

namespace SubordinateIds.Shell

/-- The search path of a program that is not given one. -/
def defaultPath : String := "/bin:/usr/bin"

/-- The parts of a search path. -/
def searchParts (text : String) : List String := text.splitOn ":"

/-- What a name that is to be run leads to. -/
inductive Found where
  | place (path : String) (place : List Octets)
  | refused
  | missing
  deriving DecidableEq, Repr

/-- Looks at a path for a program. -/
def findAt (st : State) (path : String) : Found :=
  match st.resolve path with
  | .ok (place, .file mode _) => if mode &&& 0o100 != 0 then .place path place else .refused
  | .ok _ => .refused
  | .error .permissionDenied => .refused
  | .error _ => .missing

/-- Looks for the program of a name. -/
def findProgram (st : State) (name : String) : Found :=
  if name.contains '/' then findAt st name
  else
    let tried := (searchParts (st.valueOf "PATH")).map fun part =>
      findAt st (if part = "" then name else part ++ "/" ++ name)
    match tried.find? fun | .place _ _ => true | _ => false with
    | some found => found
    | none => if tried.elem .refused then .refused else .missing

/-- The name of the program at a place, if it is one of those that are known. -/
def programAt (place : List Octets) : Option String :=
  match place with
  | name :: parent =>
    let text := octetText name
    if parent = FileTree.programsPlace && FileTree.programNames.elem text then some text else none
  | [] => none

/-- The variables that a shell sets whatever it was started with. -/
def ownVariables (parent : Nat) (directory : String) : List (String × String) :=
  [("IFS", " \t\n"), ("OPTIND", "1"), ("PPID", toString parent), ("PWD", directory)]

/-- The variables that a shell sets unless it was started with them. -/
def fallbackVariables : List (String × String) :=
  [("PATH", "/usr/local/sbin:/usr/local/bin:/usr/sbin:/usr/bin:/sbin:/bin"),
    ("PS1", "# "), ("PS2", "> "), ("PS4", "+ ")]

/-- The variables of a program that was started with an environment. -/
def exportedBindings (environment : List (String × String)) : List (String × Variable) :=
  environment.map fun e => (e.1, ⟨some e.2, true, false⟩)

/-- The variables of a shell that was started with an environment. Those that it sets
itself belong to the environment only if they did before, but for the directory. -/
def initialBindings (parent : Nat) (directory : String) (environment : List (String × String)) :
    List (String × Variable) :=
  let given := environment.filter fun e => isName e.1
  let own := ownVariables parent directory
  let names := ["IFS", "PATH", "PS1", "PS2", "PS4", "OPTIND"] ++ given.map (·.1) ++ ["PPID", "PWD"]
  names.eraseDups.map fun name =>
    let isGiven := given.any (·.1 == name)
    match own.lookup name, given.reverse.lookup name with
    | some value, _ => (name, ⟨some value, name = "PWD" || isGiven, false⟩)
    | none, some value => (name, ⟨some value, true, false⟩)
    | none, none => (name, ⟨fallbackVariables.lookup name, false, false⟩)

/-- The state of a program that is started with a number, by another one or in the place
of one. -/
def State.started (st : State) (number parent : Nat) (callers : List Caller) (name : String)
    (environment : List (String × String)) : State :=
  { st with
    number, process := number, parent, callers, name, args := []
    bindings := exportedBindings environment
    functions := [], aliases := [], options := [], actions := []
    status := 0, outputStatus := 0, saved := none
    ignored := st.ignored ++ ((st.actions.filter (·.2 == "")).map (·.1)).filter (· != 9)
    loops := 0, nextArg := 1, usedOf := none, frames := [], slots := [], lastJob := none }

/-- The program at hand as one that starts another, which it waits for or not. -/
def State.asCaller (st : State) (waits : Bool) : Caller :=
  ⟨st.number, st.actions, st.ignored, waits⟩

/-- The programs above of one that is started, which is waited for or not. -/
def State.callersBelow (st : State) (waits : Bool) : List Caller :=
  (st.asCaller waits :: st.callers).map fun caller =>
    { caller with waits := caller.waits && waits }

/-- The state as a copy of the shell finds it, which keeps no actions but the ones that
turn signals off. -/
def State.copied (st : State) (waits : Bool) : State :=
  let number := st.lastNumber + 1
  { st with
    number, parent := st.number, lastNumber := number, callers := st.callersBelow waits
    actions := st.actions.filter (·.2 == ""), slots := [], since := none }

/-- The state after what something that was started did: the texts, the files, the signals
and the programs that were left running are shared by all. -/
def State.after (st inner : State) : State :=
  { st with
    tree := inner.tree, texts := inner.texts, homes := inner.homes, notices := inner.notices
    lastNumber := inner.lastNumber, jobs := inner.jobs }

/-- The time that a word spells, in microseconds. One that does not end is a thousand
years. -/
def duration? (word : String) : Option Nat :=
  let cs := word.toList
  let whole := cs.takeWhile Char.isDigit
  let (part, unit) := match cs.drop whole.length with
    | '.' :: rest => (rest.takeWhile Char.isDigit, rest.dropWhile Char.isDigit)
    | rest => ([], rest)
  let digits := (part ++ List.replicate 6 '0').take 6
  let time := digitsValue 10 whole * 1000000 + digitsValue 10 digits
  if word = "infinity" || word = "inf" then some 31536000000000000
  else if whole.isEmpty && part.isEmpty then none
  else
    match unit with
    | [] | ['s'] => some time
    | ['m'] => some (time * 60)
    | ['h'] => some (time * 3600)
    | ['d'] => some (time * 86400)
    | _ => none

/-- Whether the words of a program ask for help with it, or for its version. -/
def isHelp (name : String) (words : List String) : Bool :=
  !(["test", "kill"].elem name) && (name != "echo" || words.length = 1) &&
    (words.head? = some "--help" || words.head? = some "--version")

/-- The path of a script that is looked for by its name, as programs are. -/
def findScript? (st : State) (name : String) : Option String :=
  let paths := (searchParts (st.valueOf "PATH")).map fun part =>
    if part = "" then name else part ++ "/" ++ name
  paths.find? fun path =>
    match st.resolve path with
    | .ok (_, .file _ _) => true
    | _ => false

/-- What can be read in a script, which is nothing in a directory, and the state after it
was read. -/
def State.readScript (st : State) (path : String) : Except SystemError (List Char × State) :=
  match st.readFile path with
  | .error .isADirectory => .ok ([], st)
  | result => result

/-- Waits for the times that words spell. -/
def sleep (words : List String) : Run Unit := do
  let times := if words.head? = some "--" then words.tail else words
  match times.mapM duration? with
  | none => leaveStatus 1
  | some [] => leaveStatus (if words.isEmpty then 1 else 0)
  | some times =>
    modify fun st => { st with now := times.foldl (fun now time => now + time) st.now }
    leaveStatus 0

/-- Copies files, or the input, to the output. -/
def copyFiles (words : List String) : Run Unit := do
  leaveStatus 0
  let words := words.filter (· != "--")
  (if words.isEmpty then ["-"] else words).forM fun word => do
    let st ← get
    if word = "-" then
      set (st.withInput [])
      if !st.hasInput then leaveStatus 1
      if !(← write 1 (String.ofList st.input)) then leaveStatus 1
    else
      match st.readFile word with
      | .ok (contents, st) =>
        set st
        if !(← write 1 (String.ofList contents)) then leaveStatus 1
      | .error _ => leaveStatus 1

end SubordinateIds.Shell
