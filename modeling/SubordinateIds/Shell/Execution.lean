import SubordinateIds.Shell.Builtin
import SubordinateIds.Shell.Expansion
import SubordinateIds.Shell.Filters
import SubordinateIds.Shell.Program
import SubordinateIds.Shell.Reading

/-
  Execution — running clauses, commands and programs

  A simple command is expanded, its streams are redirected, the assignments in front
  of it are made, and then its name is looked up: among the functions, the commands
  that are built in, and the programs. A copy of the shell runs what stands in
  brackets, in a pipeline or in the place of its output; what it changes is lost, but
  for the input it took, the output it wrote and the signals it sent.

  A script may run without an end, so everything takes `fuel` and stops when there
  is none left.
-/

namespace SubordinateIds.Shell

/-- Runs an act and changes the state after it, however it ends. -/
def always {α : Type} (act : Run α) (after : State → State) : Run α :=
  ExceptT.mk do
    let result ← act.run
    modify after
    return result

/-- Runs a command that may fail without ending the shell. -/
def forgiven (act : Run Unit) : Run Unit :=
  tryCatch act fun
    | .fail => pure ()
    | stop => throw stop

/-- Runs the body of a loop once. Whether the loop goes on is given back. -/
def turn (body : Run Unit) : Run Bool :=
  tryCatch (do body; return true) fun
    | .breakLoops 1 => return false
    | .continueLoops 1 => return true
    | .breakLoops n => throw (.breakLoops (n - 1))
    | .continueLoops n => throw (.continueLoops (n - 1))
    | stop => throw stop

/-- Whether a word is written as an assignment. -/
def isAssignment (word : Word) : Bool :=
  let isNamePart : Part → Bool
    | .text false c => inName c
    | _ => false
  let name := word.takeWhile isNamePart
  let isStart : Part → Bool
    | .text false c => startsName c
    | _ => false
  name.head?.any isStart && match word.drop name.length with
    | .text false '=' :: _ => true
    | _ => false

/-- The words after `command` that make up a command themselves. There are none if an
option asks for something else than to run them. -/
def commandWords : List String → Option (List String)
  | [] => none
  | word :: rest =>
    match word.toList with
    | ['-', '-'] => if rest.isEmpty then none else some rest
    | '-' :: c :: cs => if (c :: cs).all (· == 'p') then commandWords rest else none
    | _ => some (word :: rest)

/-- The words of a simple command without `command` in front, as often as it stands
there, and whether it did. Such a command is no function, and ends no shell. -/
def stripCommand : Nat → List String → List String × Bool
  | fuel + 1, "command" :: rest =>
    match commandWords rest with
    | some words => ((stripCommand fuel words).1, true)
    | none => ("command" :: rest, true)
  | _, words => (words, false)

/-- What a name stands for: the word that would find it, and what is said about it. -/
def meaning? (st : State) (name : String) : Option (String × String) :=
  if Reader.reservedWords.elem name then some (name, "a shell keyword")
  else if let some text := st.aliases.lookup name then
    some ("alias " ++ name ++ "=" ++ Builtin.quote text, "an alias for " ++ text)
  else if (st.functions.lookup name).isSome then some (name, "a shell function")
  else if specialCommands.elem name then some (name, "a special shell builtin")
  else if (builtins.lookup name).isSome || ["command", "type", "hash"].elem name then
    some (name, "a shell builtin")
  else if name.contains '/' then
    match st.resolve name with
    | .ok _ => some (name, name)
    | .error _ => none
  else
    match findProgram st name with
    | .place path _ => some (path, path)
    | _ => none

/-- Shows what names stand for, in many words or few. -/
def describe (long : Bool) (names : List String) : Run Unit := do
  let st ← get
  let shown := names.map fun name =>
    match meaning? st name with
    | some (word, text) => ((if long then name ++ " is " ++ text else word) ++ "\n", true)
    | none => (if long then name ++ ": not found\n" else "", false)
  say (String.join (shown.map (·.1))) (if shown.all (·.2) then 0 else 127)

/-- Shows what a name stands for, if the options ask for that. -/
def showCommand (words : List String) : Run Unit := do
  let (letters, names) ← options ['p', 'v', 'V'] words
  if letters.elem 'v' || letters.elem 'V' then describe (letters.elem 'V') (names.take 1)
  else leaveStatus 0

/-- Looks for commands by their names. -/
def remember (words : List String) : Run Unit := do
  let (_, names) ← options ['r'] words
  let st ← get
  let isFound (name : String) : Bool :=
    name.contains '/' || (!Reader.reservedWords.elem name && (meaning? st name).isSome)
  leaveStatus (if names.all isFound then 0 else 1)

/-- The script that a file names the interpreter of in its first line, as the words
to run it with. -/
def interpreter? (contents : List Char) : Option (List String) :=
  match contents with
  | '#' :: '!' :: rest =>
    let line := (rest.takeWhile (· != '\n')).dropWhile fun c => c = ' ' || c = '\t'
    let isBlank (c : Char) : Bool := c = ' ' || c = '\t'
    let path := line.takeWhile (!isBlank ·)
    let arg := ((line.drop path.length).dropWhile isBlank).reverse.dropWhile isBlank |>.reverse
    if path.isEmpty then none
    else some (String.ofList path :: if arg.isEmpty then [] else [String.ofList arg])
  | _ => none

/-- What a shell was asked to read: a text, its input, or a file. -/
inductive Source where
  | text (script : String)
  | input
  | file (path : String)
  deriving DecidableEq, Repr

/-- Reads the words that a shell was started with: what it is to read, its name if it
is given another one, and its arguments. `script` and `stream` tell whether a text or
the input is to be read. -/
def startWords :
    Nat → Bool → Bool → List String → Run (Source × Option String × List String)
  | 0, _, _, _ => fault
  | _, script, _, [] => if script then fault else return (.input, none, [])
  | fuel + 1, script, stream, word :: rest => do
    let finish : List String → Run (Source × Option String × List String)
      | [] => if script then fault else return (.input, none, [])
      | first :: more =>
        if script then return (.text first, more.head?, more.tail)
        else if stream then return (.input, none, first :: more)
        else return (.file first, some first, more)
    match word.toList with
    | ['-'] | ['-', '-'] => finish rest
    | sign :: cs =>
      if sign != '-' && sign != '+' then finish (word :: rest)
      else
        let other (c : Char) : Run Unit := if c = 'c' || c = 'l' then pure () else fault
        let rest ← Builtin.setLetters (sign = '-') other rest cs
        startWords fuel (script || cs.elem 'c') (stream || (sign = '-' && cs.elem 's')) rest
    | [] => finish (word :: rest)

/-- How a clause is run: whether its status is looked at, so that it does not end a shell
that ends on a bad status, and whether nothing comes after it in a copy of the shell, so
that a program may take the place of the copy. -/
structure Setting where
  tested : Bool
  final : Bool
  deriving DecidableEq, Repr

namespace Setting

/-- The setting of a clause that stands alone. -/
def alone : Setting := ⟨false, false⟩

/-- The setting of a clause whose status is looked at. -/
def looked : Setting := ⟨true, false⟩

/-- The setting of a part of a clause with something after it. -/
def within (setting : Setting) : Setting := { setting with final := false }

/-- The setting of a clause with nothing after it in a copy. -/
def atEnd (setting : Setting) : Setting := { setting with final := true }

end Setting

/-- Whether what is started takes the place of a copy of the shell: nothing comes after it,
and there is nothing to be done on signals or at the end. -/
def isInPlace (setting : Setting) : Run Bool := do
  return setting.final && (← get).actions.all (·.2 == "")

/-- The status of something that was started, after its end. If a signal ended it, the
status says so; if the signal was for something above, that ends, too. -/
def statusAfter (number : Nat) (result : Except Stop Unit) (inner : State) : Run Nat :=
  match result with
  | .error (.killed target signal) =>
    if target = number then return 128 + signal else throw (.killed target signal)
  | _ => return inner.status % 256

mutual

/-- Runs a clause. -/
def run : Nat → Setting → Clause → Run Unit
  | 0, _, _ => throw .leave
  | fuel + 1, setting, clause => do
    if (← get).has 'n' then return
    settle fuel
    let mut checked := false
    match clause with
    | .simple assignments words redirections =>
      checked := true
      simple fuel setting assignments words redirections
    | .pipeline members =>
      checked := true
      pipeline fuel setting members
    | .negation body =>
      run fuel .looked body
      modify fun st => { st with status := if st.status = 0 then 1 else 0 }
    | .both first second =>
      run fuel .looked first
      if (← get).status = 0 then run fuel setting second
    | .either first second =>
      run fuel .looked first
      if (← get).status ≠ 0 then run fuel setting second
    | .sequence body =>
      if body.isEmpty then leaveStatus 0
      sequence fuel setting body
    | .background body =>
      checked := true
      let prepare (st : State) : State :=
        { st.withChannel 0 (.nothing true false) with
          ignored := 2 :: 3 :: st.ignored, answers := [], since := some (st.now + readyTime) }
      let inner ← copy fuel false prepare (run fuel ⟨false, true⟩ body)
      modify fun st =>
        let number := inner.number
        let job : Job := ⟨number, inner.status, inner.now + 1, inner.ignored,
          st.now + readyTime, inner.answers, false, false⟩
        { (st.withSlot (some number)).hearing number job.ending with
          status := 0, jobs := job :: st.jobs, lastJob := number }
    | .subshell body =>
      checked := true
      if ← isInPlace setting then run fuel setting body
      else discard (copy fuel true id (run fuel setting.atEnd body))
    | .choice condition yes no =>
      run fuel .looked condition
      if (← get).status = 0 then run fuel setting yes
      else
        match no with
        | some no => run fuel setting no
        | none => leaveStatus 0
    | .loop expected condition body =>
      let loops := (← get).loops
      modify fun st => { st with loops := loops + 1 }
      always (repeated fuel setting.within expected condition body 0) fun st => { st with loops }
    | .each name words body =>
      let values ← match words with
        | some words => do pure (← words.mapM (wordFields (output fuel))).flatten
        | none => do pure (← get).args
      let loops := (← get).loops
      if values.isEmpty then leaveStatus 0
      modify fun st => { st with loops := loops + 1 }
      always (each fuel setting.within name body values) fun st => { st with loops }
    | .select word branches =>
      let text ← wordText (output fuel) word
      select fuel setting text.toList branches
    | .function name body =>
      modify fun st => { st with
        functions := (name, body) :: st.functions.filter (·.1 != name), status := 0 }
    | .redirected body redirections =>
      let before ← get
      checked := !(← redirect fuel redirections)
      always (if checked then pure () else run fuel setting.within body) (restoreStreams before)
    settle fuel
    let st ← get
    if checked && !setting.tested && st.has 'e' && st.status ≠ 0 then throw .leave

/-- Runs clauses, one after the other. -/
def sequence : Nat → Setting → List Clause → Run Unit
  | 0, _, _ => throw .leave
  | _, _, [] => return
  | fuel + 1, setting, [last] => run fuel setting last
  | fuel + 1, setting, clause :: rest => do
    run fuel setting.within clause
    sequence fuel setting rest

/-- Runs a loop. `last` is the status of the body before. -/
def repeated : Nat → Setting → Bool → Clause → Clause → Nat → Run Unit
  | 0, _, _, _, _, _ => throw .leave
  | fuel + 1, setting, expected, condition, body, last => do
    let goesOn ← turn do
      run fuel .looked condition
      if ((← get).status == 0) != expected then
        leaveStatus last
        throw (.breakLoops 1)
    if !goesOn then return
    if ← turn (run fuel setting body) then
      repeated fuel setting expected condition body (← get).status

/-- Runs the body of a loop over values. -/
def each : Nat → Setting → String → Clause → List String → Run Unit
  | 0, _, _, _, _ => throw .leave
  | _, _, _, _, [] => return
  | fuel + 1, setting, name, body, value :: values => do
    assign name value
    if ← turn (run fuel setting body) then each fuel setting name body values

/-- Runs the first branch whose pattern a text fits. -/
def select : Nat → Setting → List Char → List (List Word × Clause) → Run Unit
  | 0, _, _, _ => throw .leave
  | _, _, _, [] => leaveStatus 0
  | fuel + 1, setting, text, (patterns, body) :: branches => do
    let found ← patterns.anyM fun word => do
      return (← wordPattern (output fuel) word).fits text
    if found then run fuel setting body else select fuel setting text branches

/-- Runs commands each of which reads what the one before writes. The last one gives
the status. -/
def pipeline : Nat → Setting → List Clause → Run Unit
  | 0, _, _ => throw .leave
  | _, _, [] => return
  | fuel + 1, setting, [body] => discard (copy fuel true id (run fuel setting.atEnd body))
  | fuel + 1, setting, body :: rest => do
    let before ← get
    let first ← copy fuel true (·.withNewText 1 .writing []) (run fuel setting.atEnd body)
    modify fun st =>
      { st.withChannel 0 (.reading before.texts.length) with
        status := before.status, now := before.now }
    always (pipeline fuel setting rest) fun st =>
      { restoreStreams before st with now := max st.now first.now }

/-- Runs an act in a copy of the shell, whose state at the end is given back. The time
that it takes passes only if the shell waits for it. -/
def copy : Nat → Bool → (State → State) → Run Unit → Run State
  | 0, _, _, _ => throw .leave
  | fuel + 1, waits, prepare, act => do
    let st ← get
    let start := prepare (st.copied waits)
    let (result, inner) := (ending fuel act).run start
    set (st.after inner)
    let status ← statusAfter start.number result inner
    if waits then modify fun st =>
      ({ st.withSlot none with status, now := inner.now }.seeingEnds).hearing start.number inner.now
    return { inner with status }

/-- Runs an act and then what is to be done at the end of the shell. -/
def ending : Nat → Run Unit → Run Unit
  | 0, _ => throw .leave
  | fuel + 1, act => do
    let hold (stop : Stop) : Run Unit :=
      match stop with
      | .killed number signal => throw (.killed number signal)
      | _ => pure ()
    tryCatch act hold
    let st ← get
    match st.actions.lookup 0 with
    | none | some "" => return
    | some action =>
      set { st with actions := st.actions.filter (·.1 != 0), saved := some st.status, loops := 0 }
      tryCatch
        (do
          tryCatch (discard (text fuel .alone action.toList)) fun
            | .back => pure ()
            | stop => throw stop
          leaveStatus st.status)
        hold

/-- What would be done on a signal that came since a time, at which the last command of a
program that was left running ended. -/
def answer : Nat → State → Nat → Nat × String → Answer
  | 0, st, first, e => ⟨e.1, first, st.now, none⟩
  | fuel + 1, st, first, (signal, action) =>
    let before := { st with saved := some st.status, since := none }
    let ending : Option (Nat × Nat) := match (text fuel .alone action.toList).run before with
      | (.error .leave, inner) | (.error .fail, inner) =>
        let last := ((ending fuel (throw .leave)).run inner).2
        some (last.status % 256, last.now + 1)
      | (.error (.killed number n), inner) =>
        if number = st.number then some (128 + n, inner.now + 1) else none
      | _ => none
    ⟨signal, first, st.now, ending⟩

/-- Does what is to be done on the signals that came. -/
def settle : Nat → Run Unit
  | 0 => throw .leave
  | fuel + 1 => do
    if let some first := (← get).since then
      modify fun st =>
        if first < st.now then
          let own := st.actions.filter fun e => e.1 != 0 && !st.ignored.elem e.1
          let answers := own.map (answer fuel st first)
          { st with answers := answers ++ st.answers, since := some st.now }
        else st
    let st ← get
    match st.due? with
    | none => return
    | some signal =>
      set { st with notices := st.notices.filter fun n =>
        !(n.target = st.number && n.signal = signal && n.time ≤ st.now) }
      match st.actions.lookup signal with
      | some action =>
        let status := st.saved.getD st.status
        modify fun st => { st with saved := some status }
        discard (text fuel .alone action.toList)
        modify fun after => { after with status, saved := st.saved }
      | none => if Signal.isDeadly [] st.ignored signal then throw (.killed st.number signal)
      settle fuel

/-- Runs a text, line by line. Whether it had any commands is given back. -/
def text : Nat → Setting → List Char → Run Bool
  | 0, _, _ => throw .leave
  | fuel + 1, setting, script => textFrom fuel setting script []

/-- Runs a text in which names were replaced before. -/
def textFrom : Nat → Setting → List Char → List Replaced → Run Bool
  | 0, _, _, _ => throw .leave
  | fuel + 1, setting, script, replaced => do
    match readLine? (← get).aliases script replaced with
    | none => fault
    | some ((clauses, rest), replaced) =>
      clauses.forM (run fuel setting)
      if rest.isEmpty then return !clauses.isEmpty
      return (← textFrom fuel setting rest replaced) || !clauses.isEmpty

/-- The output of a script. -/
def output : Nat → List Clause → Run String
  | 0, _ => throw .leave
  | fuel + 1, clauses => do
    let st ← get
    let inner ← copy fuel true (·.withNewText 1 .writing [])
      (if clauses.isEmpty then leaveStatus 0 else sequence fuel ⟨false, true⟩ clauses)
    modify fun after => { after with status := st.status, outputStatus := inner.status }
    return String.ofList (inner.textAt st.texts.length)

/-- Redirects streams. Whether that was possible is given back; if not, the status is
a bad one. Documents are expanded after all other words, and may not be possible. -/
def redirect : Nat → List Redirection → Run Bool
  | 0, _ => throw .leave
  | fuel + 1, redirections => do
    let targets ← redirections.mapM fun (.to _ direction word) => do
      if direction = .document then return ""
      let target ← wordText (output fuel) word
      if direction = .same && !isStreamName target then fault
      return target
    tryCatch
      (do
        (redirections.zip targets).forM fun (.to stream direction word, target) => do
          match direction with
          | .document =>
            let text ← wordText (output fuel) word
            modify (·.withNewText stream .reading text.toList)
          | .same => copyStream stream target
          | direction => openStream stream direction target
        return true)
      fun
        | .fail => return false
        | stop => throw stop

/-- Runs a simple command. -/
def simple :
    Nat → Setting → List (String × Word) → List Word → List Redirection → Run Unit
  | 0, _, _, _, _ => throw .leave
  | fuel + 1, setting, assignments, words, redirections => do
    modify fun st => { st with outputStatus := 0, now := st.now + 100 }
    let first ← (words.take 1).mapM (wordFields (output fuel))
    let declares := first.flatten.head?.any ["export", "readonly", "local"].elem
    let others ← (words.drop 1).mapM fun word =>
      if declares && isAssignment word then do return [← assignedText (output fuel) word]
      else wordFields (output fuel) word
    let fields := (first ++ others).flatten
    let (fields, eased) := stripCommand fields.length fields
    let before ← get
    let isFunction := fields.head?.any fun name => !eased && (before.functions.lookup name).isSome
    let special := !eased && !isFunction && fields.head?.any specialCommands.elem
    let keeps := fields.head? = some "exec" && fields.length = 1
    let restore := if keeps then id else restoreStreams before
    always (do
      if !(← redirect fuel redirections) then
        leaveStatus 2
        if special then throw .fail
        else return
      if fields.isEmpty || special then
        assignments.forM fun e => do assign e.1 (← assignedText (output fuel) e.2)
        match fields with
        | [] => leaveStatus (← get).outputStatus
        | name :: args => builtin fuel setting name args
      else
        let kept := assignments.map fun e => (e.1, before.binding? e.1)
        let giveBack (st : State) : State :=
          kept.reverse.foldl (fun st e => st.withVariable e.1 e.2) st
        let prepare : Run Unit := assignments.forM fun e => do
          assign e.1 (← assignedText (output fuel) e.2)
          modify fun st => st.withVariable e.1
            ((st.binding? e.1).map fun v => { v with exported := true })
        let act : Run Unit := match fields with
          | [] => pure ()
          | name :: args =>
            match if isFunction then before.functions.lookup name else none with
            | some body => call fuel setting.within body args
            | none => builtin fuel setting name args
        let act := if isFunction then act else forgiven act
        if assignments.isEmpty then act else always (do prepare; act) giveBack) restore

/-- Calls a function. -/
def call : Nat → Setting → Clause → List String → Run Unit
  | 0, _, _, _ => throw .leave
  | fuel + 1, setting, body, args => do
    let before ← get
    if before.frames.length ≥ callLimit then fault
    set { before with
      args, loops := 0, nextArg := 1, usedOf := none, frames := [] :: before.frames }
    always
      (tryCatch (run fuel setting body) fun
        | .back => pure ()
        | stop => throw stop)
      fun st =>
        let st := (st.frames.headD []).foldl (fun st e => st.withVariable e.1 e.2) st
        { st with
          args := before.args, loops := before.loops, frames := before.frames
          nextArg := before.nextArg, usedOf := before.usedOf }

/-- Runs a command that is built in, or a program. -/
def builtin : Nat → Setting → String → List String → Run Unit
  | 0, _, _, _ => throw .leave
  | fuel + 1, setting, name, args => do
    match name with
    | "eval" =>
      if args.isEmpty then leaveStatus 0
      else if !(← text fuel setting.within (" ".intercalate args).toList) then leaveStatus 0
    | "." =>
      match args with
      | [] => leaveStatus 0
      | path :: _ =>
        let st ← get
        let found := if path.contains '/' then some path else findScript? st path
        match found.map st.readScript with
        | some (.ok (contents, st)) =>
          set st
          tryCatch
            (do
              if !(← text fuel .alone contents) then leaveStatus 0)
            fun
              | .back => pure ()
              | stop => throw stop
        | _ => fault
    | "exec" =>
      match args with
      | [] => leaveStatus 0
      | name :: args =>
        if findProgram (← get) name matches .place _ _ then
          modify fun st => { st with actions := st.actions.filter (·.2 == "") }
        start fuel true true (← get).shelvedEnvironment name args
        throw .leave
    | "command" => showCommand args
    | "type" => describe true args
    | "hash" => remember args
    | name =>
      match builtins.lookup name with
      | some act => act args
      | none =>
        start fuel (← isInPlace setting) false (← get).shelvedEnvironment name args

/-- Finds and runs a program in an environment. With `inPlace` it takes the place of what
runs now; with `counts` what was found on the way and cannot be run counts as found. -/
def start :
    Nat → Bool → Bool → List (String × String) → String → List String → Run Unit
  | 0, _, _, _, _, _ => throw .leave
  | fuel + 1, inPlace, counts, environment, name, args => do
    let st ← get
    match findProgram st name with
    | .missing => leaveStatus 127
    | .refused => leaveStatus (if counts || name.contains '/' then 126 else 127)
    | .place path place =>
      let next := st.lastNumber + 1
      let start := if inPlace then st.started st.number st.parent st.callers name environment
        else { st.started next st.number (st.callersBelow true) name environment with
          lastNumber := next, since := none }
      let (result, inner) := (program fuel path place args).run start
      set (st.after inner)
      let status ← statusAfter (if inPlace then 0 else start.number) result inner
      modify fun st =>
        let st := if inPlace then { st with answers := inner.answers, since := inner.since }
          else (st.withSlot none).hearing start.number inner.now
        { st with status, now := inner.now }.seeingEnds

/-- Runs the program at a place, in a state of its own. -/
def program : Nat → String → List Octets → List String → Run Unit
  | 0, _, _, _ => throw .leave
  | fuel + 1, path, place, args => do
    match programAt place with
    | some "sh" => shell fuel args
    | some "false" => leaveStatus 1
    | some "env" =>
      if isHelp "env" args then say "Usage\n" 0 else environ fuel true args
    | some "printf" =>
      let words := if args.head? = some "--" then args.tail else args
      if isHelp "printf" args then say "Usage\n" 0
      else if words.isEmpty then leaveStatus 1
      else forgiven (Builtin.printf ("--" :: words))
    | some name =>
      if isHelp name args then say "Usage\n" 0
      else match filters.lookup name with
      | some act => forgiven (act args)
      | none => forgiven (builtin fuel .alone name args)
    | none =>
      let st ← get
      let contents := match st.tree.node? place with
        | some (.file _ contents) => (octetText contents).toList
        | _ => []
      match interpreter? contents with
      | some (interpreter :: more) =>
        match findAt st interpreter with
        | .place found place => program fuel found place (more ++ path :: args)
        | .missing => leaveStatus 127
        | .refused => leaveStatus 126
      | _ => shell fuel (path :: args)

/-- Shows the environment, or runs a program in another one. The words may be options
only at the start. -/
def environ : Nat → Bool → List String → Run Unit
  | 0, _, _ => throw .leave
  | fuel + 1, atStart, words => do
    match atStart, words with
    | _, [] => say (String.join ((← get).environment.map fun e => e.1 ++ "=" ++ e.2 ++ "\n")) 0
    | true, "-" :: rest | true, "-i" :: rest =>
      modify fun st => { st with bindings := [] }
      environ fuel true rest
    | true, "-u" :: name :: rest =>
      modify (·.withVariable name none)
      environ fuel true rest
    | true, "--" :: rest => environ fuel false rest
    | _, word :: rest =>
      if atStart && word.startsWith "-" then leaveStatus 125
      else if word.contains '=' then
        let (name, value) := Builtin.splitAssignment word
        modify (·.withVariable name (some ⟨value, true, false⟩))
        environ fuel false rest
      else
        modify fun st =>
          if (st.binding? "PATH").isSome then st
          else st.withVariable "PATH" (some ⟨some defaultPath, false, false⟩)
        start fuel true true (← get).environment word rest

/-- Runs a shell on the words that it was started with. -/
def shell : Nat → List String → Run Unit
  | 0, _ => throw .leave
  | fuel + 1, words =>
    ending fuel do
      modify fun st =>
        { st with bindings := initialBindings st.parent st.directory st.environment }
      let (source, name, args) ← startWords (words.length + 1) false false words
      modify fun st => { st with name := name.getD st.name, args }
      match source with
      | .text script => discard (text fuel .alone script.toList)
      | .input =>
        let st ← get
        set (st.withInput [])
        discard (text fuel .alone st.input)
      | .file path =>
        let st ← get
        match st.readScript path with
        | .ok (contents, st) =>
          set st
          discard (text fuel .alone contents)
        | .error _ =>
          leaveStatus 2
          throw .leave

end

end SubordinateIds.Shell
