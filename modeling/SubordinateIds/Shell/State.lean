import SubordinateIds.FileTree
import SubordinateIds.Shell.Integer
import SubordinateIds.Shell.Process
import SubordinateIds.Shell.Script

/-
  States — what a shell knows while it runs a script

  A shell has variables, arguments, functions, options, actions for signals and
  streams. An act of the shell changes the state and comes to a value, or stops: it
  leaves a loop, a function or the shell, fails in a way that ends the shell unless a
  command holds it up, or is ended by a signal. The state outlives the stop.
-/

namespace SubordinateIds.Shell

/-- A variable. One without a value can still be marked. -/
structure Variable where
  value : Option String
  exported : Bool
  readOnly : Bool
  deriving DecidableEq, Repr

/-- What a stream leads to: nothing, which may be open for input and for output, a
directory, a place that is always full, a text that is read from its front, one that is
written at its end, or no place at all. Streams that lead to one text share it. -/
inductive Channel where
  | nothing (input output : Bool)
  | directory (place : List Octets)
  | full
  | reading (text : Nat)
  | writing (text : Nat)
  | closed
  deriving DecidableEq, Repr

/-- A text that is passed on: its front, and behind that the rest of it, backwards. -/
structure Passage where
  front : List Char
  back : List Char
  deriving DecidableEq, Repr

/-- A limit of what programs may use: the one that holds, and the one up to which it may be
raised. Where there is none, nothing stands in the way. -/
structure Limit where
  current : Option Nat
  most : Option Nat
  deriving DecidableEq, Repr

/-- The state of a shell. -/
structure State where
  tree : FileTree
  /-- The directory it is in, as a text. -/
  directory : String
  /-- The number of what runs this, of the program that it is or is a copy of, and of
  what started it. -/
  number : Nat
  process : Nat
  parent : Nat
  /-- The programs above, the nearest first. -/
  callers : List Caller
  /-- The time, in microseconds. -/
  now : Nat
  name : String
  args : List String
  /-- The variables, each of a name of its own, in the order in which they were made. -/
  bindings : List (String × Variable)
  functions : List (String × Clause)
  /-- The names that stand for texts where a command may start. -/
  aliases : List (String × String)
  options : List Char
  /-- The status of the last command. -/
  status : Nat
  /-- The status of the last script whose output was taken. -/
  outputStatus : Nat
  /-- The status before the action that is under way. -/
  saved : Option Nat
  /-- What to do on a signal, or at the end, which has the number 0. -/
  actions : List (Nat × String)
  /-- The signals that were turned off from the start. -/
  ignored : List Nat
  /-- The signals on their way. -/
  notices : List Notice
  /-- What is to be done on signals that come while this was left running, and from when
  on that is not known yet. -/
  answers : List Answer
  since : Option Nat
  /-- The number of loops around the command. -/
  loops : Nat
  /-- The number of the argument after the one that options are taken from, and how
  much of that one has been used up. -/
  nextArg : Nat
  usedOf : Option Nat
  /-- The variables that functions under way will give back, the innermost first. -/
  frames : List (List (String × Option Variable))
  streams : List (Nat × Channel)
  /-- The texts that streams lead to, and the files that some of them are in. -/
  texts : List Passage
  homes : List (Nat × List Octets)
  /-- The bits that new files do not get. -/
  mask : Nat
  /-- The limits that were set, each under the letter of its kind. -/
  limits : List (Char × Limit)
  /-- The number that was given to a program last. -/
  lastNumber : Nat
  /-- The programs that were left running by anyone. -/
  jobs : List Job
  /-- The places for the programs that were left running by this one. -/
  slots : List (Option Nat)
  /-- The program that was left running last. -/
  lastJob : Option Nat

/-- Why an act stops. -/
inductive Stop where
  | leave
  | fail
  | back
  | breakLoops (count : Nat)
  | continueLoops (count : Nat)
  | killed (number signal : Nat)
  deriving DecidableEq, Repr

/-- How many functions may be called one inside the other. -/
def callLimit : Nat := 1000

/-- The letters of the options. -/
def optionLetters : List Char := "pubaCEVvxsnmiIfe".toList

/-- What a shell does: it changes the state and comes to a value or stops. -/
abbrev Run := ExceptT Stop (StateM State)

namespace State

/-- The variable of a name. -/
def binding? (st : State) (name : String) : Option Variable := st.bindings.lookup name

/-- The value of a variable, which is empty if it has none. -/
def valueOf (st : State) (name : String) : String :=
  ((st.binding? name).bind (·.value)).getD ""

/-- The state with another variable of a name, in the place of the one before, if there
was one. -/
def withVariable (st : State) (name : String) (v : Option Variable) : State :=
  let bindings := match v with
    | none => st.bindings.filter (·.1 != name)
    | some v =>
      if st.bindings.any (·.1 == name) then
        st.bindings.map fun e => if e.1 = name then (name, v) else e
      else st.bindings ++ [(name, v)]
  { st with bindings }

/-- The state in which a name stands for a text, in the place where it was before. -/
def withAlias (st : State) (name text : String) : State :=
  let aliases := if st.aliases.any (·.1 == name) then
    st.aliases.map fun e => if e.1 = name then (name, text) else e
  else st.aliases ++ [(name, text)]
  { st with aliases }

/-- Whether an option is on. -/
def has (st : State) (option : Char) : Bool := st.options.elem option

/-- The characters at which values fall apart. -/
def separators (st : State) : List Char :=
  match (st.binding? "IFS").bind (·.value) with
  | some value => value.toList
  | none => [' ', '\t', '\n']

/-- The text between arguments that are joined. -/
def joiner (st : State) : String := String.ofList (st.separators.take 1)

/-- The letters of the options that are on. -/
def optionText (st : State) : String := String.ofList (optionLetters.filter st.has)

/-- The value of a parameter, if it is set. -/
def value? (st : State) (name : String) : Option String :=
  match name with
  | "$" => some (toString st.process)
  | "?" => some (toString st.status)
  | "#" => some (toString st.args.length)
  | "-" => some st.optionText
  | "!" => st.lastJob.map toString
  | "@" | "*" => some (st.joiner.intercalate st.args)
  | name =>
    match count? name with
    | some 0 => some st.name
    | some n => st.args[n - 1]?
    | none => (st.binding? name).bind (·.value)

/-- The variables that programs find in their environment, with their values. -/
def environment (st : State) : List (String × String) :=
  st.bindings.filterMap fun e =>
    if e.2.exported then e.2.value.map fun value => (e.1, value) else none

/-- The shelf on which a shell keeps the variable of a name. -/
def shelf (name : String) : Nat :=
  let sum (start : Nat) (cs : List Char) : Nat := cs.foldl (fun n c => n + c.toNat) start
  sum (16 * ((name.toList.head?.map Char.toNat).getD 0)) name.toList % 39

/-- The environment of a program that a shell starts: it goes from shelf to shelf. -/
def shelvedEnvironment (st : State) : List (String × String) :=
  st.environment.mergeSort fun a b => shelf a.1 ≤ shelf b.1

/-- Where a stream leads to. -/
def channel (st : State) (stream : Nat) : Channel := (st.streams.lookup stream).getD .closed

/-- The state with a stream that leads somewhere else. -/
def withChannel (st : State) (stream : Nat) (channel : Channel) : State :=
  { st with streams := (stream, channel) :: st.streams.filter (·.1 != stream) }

/-- What is in a text. -/
def textAt (st : State) (text : Nat) : List Char :=
  match st.texts[text]? with
  | some passage =>
    if passage.back.isEmpty then passage.front else passage.front ++ passage.back.reverse
  | none => []

/-- The state with something else in a text. -/
def withText (st : State) (text : Nat) (contents : List Char) : State :=
  { st with texts := st.texts.set text ⟨contents, []⟩ }

/-- The state with something more at the end of a text. -/
def withMore (st : State) (text : Nat) (more : List Char) : State :=
  { st with texts := st.texts.modify text fun passage =>
      { passage with back := more.reverse ++ passage.back } }

/-- The octets of a text, a character for each. -/
def octetsOf (cs : List Char) : Octets := cs.map fun c => c.toNat.toUInt8

/-- The state with a text in the file that it is in, if it is in one. -/
def withHome (st : State) (text : Nat) : State :=
  match st.homes.lookup text with
  | none => st
  | some place =>
    let mode := match st.tree.node? place with
      | some node => node.mode
      | none => 0o666 &&& (st.mask.toUInt32 ^^^ 0o777)
    { st with tree := st.tree.insert place (.file mode (octetsOf (st.textAt text))) }

/-- The state with one more text, to which a channel on a stream leads. -/
def withNewText (st : State) (stream : Nat) (channel : Nat → Channel) (contents : List Char) :
    State :=
  let texts := st.texts ++ [Passage.mk contents []]
  { st with texts }.withChannel stream (channel st.texts.length)

/-- What can be read on the input. -/
def input (st : State) : List Char :=
  match st.channel 0 with
  | .reading text => st.textAt text
  | _ => []

/-- Whether the input can be read, be it to its end at once. -/
def hasInput (st : State) : Bool :=
  match st.channel 0 with
  | .nothing input _ => input
  | .directory _ | .writing _ | .closed => false
  | .full | .reading _ => true

/-- The state with something else to read on the input, if a text is read there. -/
def withInput (st : State) (contents : List Char) : State :=
  match st.channel 0 with
  | .reading text => st.withText text contents
  | _ => st

/-- A path as the tree takes it: one that does not start at the root starts in the
directory of the shell. -/
def path (st : State) (text : String) : Path :=
  ⟨octetsOf (if text.startsWith "/" then text else st.directory ++ "/" ++ text).toList⟩

end State

/-- Sets the status. -/
def leaveStatus (status : Nat) : Run Unit := modify fun st => { st with status }

/-- Goes wrong in a way that ends the shell. -/
def fault {α : Type} : Run α := do
  leaveStatus 2
  throw .fail

/-- Gives a variable a value. -/
def assign (name value : String) : Run Unit := do
  let st ← get
  let old := (st.binding? name).getD ⟨none, false, false⟩
  if old.readOnly then fault
  set (st.withVariable name (some { old with
    value := some value, exported := old.exported || st.has 'a' }))
  if name = "OPTIND" then
    modify fun st => { st with nextArg := max 1 ((count? value).getD 1), usedOf := none }

/-- Writes a text to a stream. Whether that was possible is given back. -/
def write (stream : Nat) (text : String) : Run Bool := do
  let st ← get
  match st.channel stream with
  | .writing place =>
    set ((st.withMore place text.toList).withHome place)
    return true
  | .nothing _ true => return true
  | .nothing _ false | .directory _ | .full | .reading _ | .closed => return text.isEmpty

/-- Takes the input up to the end of a line. Whether there was an end is given back
with the line, in which NULs are left out. -/
def takeLine : Run (List Char × Bool) := do
  let st ← get
  let line := st.input.takeWhile (· != '\n')
  let rest := st.input.drop line.length
  set (st.withInput rest.tail)
  return (line.filter (· != '\x00'), !rest.isEmpty)

end SubordinateIds.Shell
