import SubordinateIds.Shell.Integer

/-
  Signals — their names and numbers, and what they do to a program

  Signals are numbered from 1 to 64; the number 0 asks whether a program is there
  and does nothing to it. Most signals end a program that does not expect them. The
  rest pass without a trace: those that are about other programs, those that stop a
  program, which is taken to be resumed at once, and two that are kept for the system
  library and are turned off in a program that it starts.
-/

namespace SubordinateIds.Shell

namespace Signal

/-- The names of the signals with a fixed meaning. -/
def fixedNames : List (String × Nat) := [
  ("HUP", 1), ("INT", 2), ("QUIT", 3), ("ILL", 4), ("TRAP", 5), ("ABRT", 6), ("BUS", 7), ("FPE", 8),
  ("KILL", 9), ("USR1", 10), ("SEGV", 11), ("USR2", 12), ("PIPE", 13), ("ALRM", 14), ("TERM", 15),
  ("CHLD", 17), ("CONT", 18), ("STOP", 19), ("TSTP", 20), ("TTIN", 21), ("TTOU", 22), ("URG", 23),
  ("XCPU", 24), ("XFSZ", 25), ("VTALRM", 26), ("PROF", 27), ("WINCH", 28), ("IO", 29), ("PWR", 30),
  ("SYS", 31)]

/-- The names of the signals that programs are free to use: the lower half is
counted up from the first, the upper half down from the last. -/
def freeNames : List (String × Nat) :=
  [("RTMIN", 34), ("RTMAX", 64)] ++
    (List.range 15).map (fun i => (s!"RTMIN+{i + 1}", 35 + i)) ++
    (List.range 14).map (fun i => (s!"RTMAX-{i + 1}", 63 - i))

/-- The names of the signals. -/
def names : List (String × Nat) := fixedNames ++ freeNames

/-- The name of a signal, which is its number if it has no other. -/
def name (signal : Nat) : String :=
  ((names.find? (·.2 == signal)).map (·.1)).getD (toString signal)

/-- The number of the last signal. -/
def last : Nat := 64

/-- The signal that ends a program unless another one is asked for. -/
def term : Nat := 15

/-- The signal with a number or a name; capitals do not count. -/
def number? (text : String) : Option Nat :=
  let cs := text.toList
  if !cs.isEmpty && cs.all Char.isDigit then
    let n := digitsValue 10 cs
    if n ≤ last then some n else none
  else names.lookup text.toUpper

/-- The signals that do not end a program, with the number that is none: `CHLD`,
`CONT`, `STOP`, `TSTP`, `TTIN`, `TTOU`, `URG` and `WINCH`. -/
def harmless : List Nat := [0, 17, 18, 19, 20, 21, 22, 23, 28]

/-- The signals that are turned off from the start. -/
def reserved : List Nat := [32, 33]

/-- Whether a signal ends a program. -/
def ends (signal : Nat) : Bool := !harmless.contains signal

end Signal

/-- What the words after `kill` ask for: to send a signal to targets, or to show the
name of a signal, or of all of them. -/
inductive KillRequest where
  | list
  | nameOf (word : String)
  | send (signal : Nat) (targets : List String)
  deriving DecidableEq, Repr

namespace KillRequest

/-- The request of words after the options. A signal goes to one target at least, and
none goes anywhere if names are to be shown. -/
def of (shows : Bool) (signal : Option Nat) (words : List String) : Option KillRequest :=
  match shows, words with
  | true, [] => some .list
  | true, word :: _ => if signal.isSome then none else some (.nameOf word)
  | false, [] => none
  | false, words => some (.send (signal.getD Signal.term) words)

mutual

/-- Reads options that come in words of their own. -/
def options? (shows : Bool) (signal : Option Nat) : List String → Option KillRequest
  | [] => of shows signal []
  | word :: rest =>
    match word.toList with
    | ['-', '-'] => of shows signal rest
    | '-' :: c :: cs => letters? shows signal rest (c :: cs)
    | _ => of shows signal (word :: rest)
termination_by words => (words.length, 0)

/-- Reads the letters of a word with options. The signal after `s` is the rest of the
word, or the next word. -/
def letters? (shows : Bool) (signal : Option Nat) (rest : List String) :
    List Char → Option KillRequest
  | [] => options? shows signal rest
  | 'l' :: cs => letters? true signal rest cs
  | ['s'] =>
    match rest with
    | [] => none
    | name :: rest => do options? shows (some (← Signal.number? name)) rest
  | 's' :: cs => do options? shows (some (← Signal.number? (String.ofList cs))) rest
  | _ => none
termination_by cs => (rest.length, cs.length + 1)

end

/-- Reads the words after `kill`. The first word may be a signal behind a dash. -/
def read? (words : List String) : Option KillRequest :=
  match words with
  | [] => none
  | word :: rest =>
    match word.toList with
    | '-' :: cs =>
      match Signal.number? (String.ofList cs) with
      | some signal => of false (some signal) rest
      | none => options? false none words
    | _ => of false none words

end KillRequest

end SubordinateIds.Shell
