import SubordinateIds.Shell.Execution

/-
  Launch — starting a program in a file tree

  A command names its program by a path, or by a name that is looked for in the
  directories of the search path that the program itself is given. The words and the
  environment have to fit into the room that there is for them. A file that may be
  run is a program, a script with the path of its interpreter in the first line, or,
  if it was found by its name, a script for the shell.

  Correspondence (program ↔ model):
    `OsSystemOps::run` ↔ `launch`
    `exit_outcome`     ↔ `finish`
    `stdio`            ↔ the streams of `initialState`

  The program hands a command on to the system, whose commands are mostly scripts for a shell.
  What is modelled here and in the modules beside this one is how the system and the shell
  answer, since what the program makes of a command can be compared with nothing else.
-/

namespace SubordinateIds.Shell

/-- The octets of a text, a character for each. -/
def shellText (text : String) : String := octetText text.toUTF8.toList

/-- The entries of the environment of a command: the last value of each name counts,
and the names are in the order of their octets. -/
def environmentEntries (env : List (String × Octets)) : List (String × String) :=
  let names := (env.map fun e => e.1.toUTF8.toList).eraseDups.mergeSort Octets.le
  names.filterMap fun name =>
    (env.reverse.find? fun e => e.1.toUTF8.toList == name).map fun e =>
      (octetText name, octetText e.2)

/-- The names and values that a program finds in its environment: a name ends where
the first equals sign is, even if it was started with a longer one. -/
def environmentFound (env : List (String × Octets)) : List (String × String) :=
  (environmentEntries env).map fun e =>
    let (name, value) := Builtin.splitAssignment (e.1 ++ "=" ++ e.2)
    (name, value.getD "")

/-- The length of the longest word that a program may be started with. -/
def longestWord : Nat := 131071

/-- The room for all words that a program is started with, with what is needed to keep
track of each. -/
def roomForWords : Nat := 2097152

/-- Whether the words and the environment of a command do not fit. -/
def isTooLong (path : Nat) (c : Command) : Bool :=
  let words := (c.arg0 :: c.args).map fun word => word.utf8ByteSize
  let entries := (environmentEntries c.env).map fun e => e.1.length + e.2.length + 1
  let all := words ++ entries
  let room := all.foldl (fun room size => room + size + 9) (path + 1)
  all.any (· > longestWord) || room > roomForWords

/-- Whether a command has a NUL in one of its texts. -/
def hasNul (c : Command) : Bool :=
  (c.arg0 :: c.args ++ c.env.map (·.1)).any (·.toList.contains '\x00') ||
    c.env.any (·.2.contains 0) || c.program.octets.contains 0

/-- The state in which a program starts. -/
def initialState (t : FileTree) (c : Command) : State where
  tree := t
  directory := "/work"
  number := 1000
  process := 1000
  parent := 999
  callers := []
  now := 0
  name := shellText c.arg0
  args := []
  bindings := exportedBindings (environmentFound c.env)
  functions := []
  aliases := []
  options := []
  status := 0
  outputStatus := 0
  saved := none
  actions := []
  ignored := Signal.reserved
  notices := []
  answers := []
  since := none
  loops := 0
  nextArg := 1
  usedOf := none
  frames := []
  streams := [(0, .nothing true false), (1, .nothing false true), (2, .nothing false true)]
  texts := []
  homes := []
  mask := 0o022
  limits := []
  lastNumber := 1000
  jobs := []
  slots := []
  lastJob := none

/-- How many steps a program may take, one inside the other. -/
def fuel : Nat := 100000

/-- How a program ends. -/
def finish (act : Run Unit) (st : State) : Exit :=
  let (result, st) := act.run st
  match result with
  | .error (.killed _ signal) => .signaled signal
  | _ => .exited (st.status % 256 : Nat)

/-- Starts what a path leads to. With `plain` a file that is no program of its own is
a script for the shell. -/
def startAt (t : FileTree) (c : Command) (plain : Bool) (p : Path) : Except SystemError Exit := do
  let (place, node) ← t.resolve p
  let contents ← match node with
    | .file mode contents => if mode &&& 0o100 = 0 then .error .permissionDenied else .ok contents
    | _ => .error .permissionDenied
  if isTooLong p.octets.length c then throw .argumentListTooLong
  let st := initialState t c
  let path := octetText p.octets
  let args := c.args.map shellText
  if (programAt place).isSome then return finish (program fuel path place args) st
  match interpreter? (octetText contents).toList with
  | some (interpreter :: _) =>
    let (_, node) ← st.resolve interpreter
    match node with
    | .file mode _ => if mode &&& 0o100 = 0 then throw .permissionDenied
    | _ => throw .permissionDenied
    return finish (program fuel path place args) st
  | _ => if plain then return finish (program fuel path place args) st else throw .uncategorized

/-- Looks for a program in directories and starts it. A directory that does not have
it, or that cannot be used, is passed over; `refused` tells that one of the files that
were found could not be run, and `last` is why the last directory was passed over. -/
def startFrom (t : FileTree) (c : Command) (refused : Bool) (last : SystemError) :
    List String → Except SystemError Exit
  | [] => .error (if refused then .permissionDenied else last)
  | part :: parts =>
    let octets : Octets := part.toList.map fun c => c.toNat.toUInt8
    let name := c.program.octets
    let p : Path := ⟨if octets.isEmpty then name else octets ++ Path.slash :: name⟩
    match startAt t c true p with
    | .error .permissionDenied => startFrom t c true .permissionDenied parts
    | .error .notFound => startFrom t c refused .notFound parts
    | .error .notADirectory => startFrom t c refused .notADirectory parts
    | result => result

/-- Starts a command in a tree, and waits for its end. -/
def launch (t : FileTree) (c : Command) : Except SystemError Exit :=
  if hasNul c then .error .invalidInput
  else if c.program.octets.contains Path.slash then startAt t c false c.program
  else if c.program.octets.isEmpty then .error .notFound
  else
    startFrom t c false .notFound
      (searchParts (((environmentFound c.env).lookup "PATH").getD defaultPath))

end SubordinateIds.Shell
