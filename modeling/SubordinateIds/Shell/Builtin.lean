import SubordinateIds.Shell.Directory
import SubordinateIds.Shell.Format
import SubordinateIds.Shell.Input
import SubordinateIds.Shell.Jobs
import SubordinateIds.Shell.Limits
import SubordinateIds.Shell.Options
import SubordinateIds.Shell.Test

/-
  Built-in commands — those that need nothing but the state of the shell

  Each of them takes the words after its name and leaves a status. One that goes
  wrong in its words fails; whether that ends the shell is for its caller to say.
-/

namespace SubordinateIds.Shell

/-- What the file tree says about the files that a test asks for. -/
def State.probe (st : State) : Probe where
  has letter text :=
    if letter = 'h' || letter = 'L' then st.files.isLink (st.path text)
    else
      match st.resolve text with
      | .error _ => false
      | .ok (_, node) =>
        let bit (mask : UInt32) : Bool := node.mode &&& mask != 0
        match letter, node with
        | 'f', .file _ _ | 'd', .directory _ | 'c', .device _ | 'p', .fifo _ => true
        | 'S', .socket _ | 'e', _ | 'O', _ | 'G', _ | 's', .directory _ => true
        | 's', .file _ contents => !contents.isEmpty
        | 'r', _ => bit 0o400
        | 'w', _ => bit 0o200
        | 'x', _ => bit 0o100
        | 'u', _ => bit 0o4000
        | 'g', _ => bit 0o2000
        | 'k', _ => bit 0o1000
        | _, _ => false
  same a b :=
    match st.resolve a, st.resolve b with
    | .ok (a, _), .ok (b, _) => a == b
    | _, _ => false

namespace Builtin

/-- Ends the shell, with the status of the command before unless another is given. -/
def exit (words : List String) : Run Unit := do
  let st ← get
  let status ← match words with
    | [] => pure (st.saved.getD st.status)
    | word :: _ => demandCount word
  leaveStatus (status % 256)
  throw .leave

/-- Ends a function. -/
def back (words : List String) : Run Unit := do
  let st ← get
  let status ← match words with
    | [] => pure (st.saved.getD st.status)
    | word :: _ => demandCount word
  leaveStatus status
  throw .back

/-- Leaves or repeats loops. Without a loop nothing happens. -/
def jump (stop : Nat → Stop) (words : List String) : Run Unit := do
  let n ← match words with
    | [] => pure 1
    | word :: _ => demandCount word
  if n = 0 then fault
  leaveStatus 0
  let loops := (← get).loops
  if loops > 0 then throw (stop (min n loops))

/-- Drops arguments. -/
def shift (words : List String) : Run Unit := do
  let st ← get
  let n ← match words with
    | [] => pure 1
    | word :: _ => demandCount word
  if n > st.args.length then fault
  set { st with args := st.args.drop n, status := 0 }

/-- Shows variables by their names, each as a script could set it. -/
def showVariables (lead : String) (shown : Variable → Bool) : Run Unit := do
  let st ← get
  let names := (st.bindings.map (·.1)).mergeSort fun a b => a ≤ b
  let lines := names.filterMap fun name => do
    let v ← (st.binding? name).filter shown
    if !isName name then none
    return lead ++ name ++ ((v.value.map fun value => "=" ++ quote value).getD "") ++ "\n"
  say (String.join lines) 0

/-- Sets options and arguments. -/
def setAll (words : List String) : Run Unit := do
  if words.isEmpty then showVariables "" (·.value.isSome)
  else
    if let some args ← setOptions (words.length + 1) words then modify fun st => { st with args }
    leaveStatus 0

/-- The name and the value of an assignment in one word. -/
def splitAssignment (word : String) : String × Option String :=
  let cs := word.toList
  let name := cs.takeWhile (· != '=')
  (String.ofList name,
    if cs.elem '=' then some (String.ofList (cs.drop (name.length + 1))) else none)

/-- Forgets variables or functions. -/
def unset (words : List String) : Run Unit := do
  let (letters, names) ← options ['v', 'f'] words
  names.forM fun name => do
    let st ← get
    if letters.getLast? = some 'f' then
      set { st with functions := st.functions.filter (·.1 != name) }
    else
      let name := (splitAssignment name).1
      if !isName name || (st.binding? name).any (·.readOnly) then fault
      set (st.withVariable name none)
  leaveStatus 0

/-- Changes variables, after giving them values if the words do. Without words, those
that are changed already are shown. -/
def declare (command : String) (isChanged : Variable → Bool) (change : Variable → Variable)
    (words : List String) : Run Unit := do
  let (letters, words) ← options ['p'] words
  if !letters.isEmpty || words.isEmpty then showVariables (command ++ " ") isChanged
  else
    words.forM fun word => do
      let (name, value) := splitAssignment word
      if !isName name then fault
      if let some value := value then assign name value
      modify fun st =>
        st.withVariable name (some (change ((st.binding? name).getD ⟨none, false, false⟩)))
    leaveStatus 0

/-- Makes variables belong to the function under way. -/
def localise (words : List String) : Run Unit := do
  words.forM fun word => do
    let (name, value) := splitAssignment word
    let st ← get
    match st.frames with
    | [] => fault
    | frame :: frames =>
      if !isName name then fault
      let kept := if frame.any (·.1 == name) then frame else (name, st.binding? name) :: frame
      set { st with frames := kept :: frames }
      if let some value := value then assign name value
  if (← get).frames.isEmpty then fault
  leaveStatus 0

/-- Where the next option is among arguments: the number of the argument after the one
that it is in, and the rest of that one from the option on. There is no rest if the
options have ended. -/
def nextLetters (st : State) (args : List String) : Nat × List Char :=
  let pending := match st.usedOf with
    | some used => ((args.getD (st.nextArg - 2) "").toList).drop used
    | none => []
  if !pending.isEmpty then (st.nextArg, pending)
  else
    match (args.getD (st.nextArg - 1) "").toList with
    | ['-', '-'] => (st.nextArg + 1, [])
    | '-' :: letters => (if letters.isEmpty then st.nextArg else st.nextArg + 1, letters)
    | _ => (st.nextArg, [])

/-- Takes the next option out of arguments. -/
def nextOption (words : List String) : Run Unit := do
  match words with
  | known :: name :: given =>
    let st ← get
    let args := if given.isEmpty then st.args else given
    let st := if st.nextArg > args.length + 1 then { st with nextArg := 1, usedOf := none } else st
    let (position, letters) := nextLetters st args
    let finish (letter : Char) (position : Nat) (used : Option Nat) : Run Unit := do
      assign "OPTIND" (toString position)
      if !isName name then fault
      assign name (String.singleton letter)
      modify fun st => { st with nextArg := position, usedOf := used }
    let noValue : Run Unit := modify (·.withVariable "OPTARG" none)
    let quiet := known.startsWith ":"
    match letters with
    | [] =>
      finish '?' position none
      leaveStatus 1
    | c :: rest =>
      leaveStatus 0
      let used := some ((args.getD (position - 2) "").length - rest.length)
      let after := known.toList.dropWhile (· != c)
      if c = ':' || after.isEmpty then
        if quiet then assign "OPTARG" (String.singleton c) else noValue
        finish '?' position used
      else if after[1]? != some ':' then
        assign "OPTARG" ""
        finish c position used
      else if !rest.isEmpty then
        assign "OPTARG" (String.ofList rest)
        finish c position none
      else
        match args[position - 1]? with
        | some value =>
          assign "OPTARG" value
          finish c (position + 1) none
        | none =>
          if quiet then assign "OPTARG" (String.singleton c) else noValue
          finish (if quiet then ':' else '?') position none
  | _ => fault

/-- The name and the text in a word for an alias. The name is not empty. -/
def splitAlias (word : String) : String × Option String :=
  match word.toList with
  | [] => ("", none)
  | c :: cs =>
    let (name, text) := splitAssignment (String.ofList cs)
    (String.singleton c ++ name, text)

/-- Makes names stand for texts, or shows what they stand for. -/
def setAliases (words : List String) : Run Unit := do
  let line (e : String × String) : String := e.1 ++ "=" ++ quote e.2 ++ "\n"
  if words.isEmpty then
    let shown := (← get).aliases.mergeSort fun a b => State.shelf a.1 ≤ State.shelf b.1
    say (String.join (shown.map line)) 0
  else
    let mut status := 0
    for word in words do
      let st ← get
      match splitAlias word with
      | (name, some text) => set (st.withAlias name text)
      | (name, none) =>
        match st.aliases.lookup name with
        | some text => discard (write 1 (line (name, text)))
        | none => status := 1
    leaveStatus status

/-- Makes names stand for themselves again. -/
def dropAliases (words : List String) : Run Unit := do
  let (letters, words) ← options ['a'] words
  if !letters.isEmpty then modify fun st => { st with aliases := [], status := 0 }
  else
    let st ← get
    set { st with
      aliases := st.aliases.filter fun e => !words.elem e.1
      status := if words.all fun word => (st.aliases.lookup word).isSome then 0 else 1 }

/-- Writes by a format. -/
def printf (words : List String) : Run Unit := do
  let (_, words) ← options [] words
  match words with
  | [] => fault
  | format :: words =>
    match Format.printf format words with
    | some (text, fine) => say text (if fine then 0 else 1)
    | none => fault

/-- Tests words. -/
def test (words : List String) : Run Unit := do
  match Test.status (← get).probe words with
  | 2 => fault
  | n => leaveStatus n

/-- Tests words that a bracket has to close. -/
def bracket (words : List String) : Run Unit :=
  if words.getLast?.any (·.startsWith "]") then test words.dropLast else fault

end Builtin

/-- The commands that are built in, by their names. -/
def builtins : List (String × (List String → Run Unit)) := [
  (":", fun _ => leaveStatus 0), ("true", fun _ => leaveStatus 0),
  ("false", fun _ => leaveStatus 1),
  ("exit", Builtin.exit), ("return", Builtin.back),
  ("break", Builtin.jump .breakLoops), ("continue", Builtin.jump .continueLoops),
  ("shift", Builtin.shift), ("set", Builtin.setAll), ("unset", Builtin.unset),
  ("export", Builtin.declare "export" (·.exported) fun v => { v with exported := true }),
  ("readonly", Builtin.declare "readonly" (·.readOnly) fun v => { v with readOnly := true }),
  ("local", Builtin.localise), ("trap", Builtin.trap), ("kill", Builtin.kill),
  ("read", Builtin.read), ("wait", Builtin.wait), ("cd", Builtin.changeDirectory),
  ("chdir", Builtin.changeDirectory),
  ("pwd", Builtin.showDirectory), ("umask", Builtin.mask),
  ("getopts", Builtin.nextOption), ("echo", fun words => say (Format.echo words) 0),
  ("printf", Builtin.printf), ("test", Builtin.test), ("[", Builtin.bracket),
  ("times", fun _ => say (String.join (List.replicate 2 "0m0.000000s 0m0.000000s\n")) 0),
  ("alias", Builtin.setAliases), ("unalias", Builtin.dropAliases), ("jobs", Builtin.showJobs),
  ("ulimit", Builtin.limit), ("bg", fun _ => fault), ("fg", fun _ => fault)]

end SubordinateIds.Shell
