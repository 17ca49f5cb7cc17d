import SubordinateIds.Shell.Signal

/-
  Processes — programs that run, their numbers, and signals between them

  Programs have numbers, and time passes. A program that another one waits for takes
  its time from it; one that is left running is run at once, up to its end, but ends
  only when its time has come, and may be ended by a signal before. A signal to a
  program that is not at hand is a notice, which waits for it and for the time.
-/

namespace SubordinateIds.Shell

/-- What a program that was left running has to do on a signal that comes in a span of
time. It may end it, with a status and at a time. -/
structure Answer where
  signal : Nat
  first : Nat
  last : Nat
  ending : Option (Nat × Nat)
  deriving DecidableEq, Repr

/-- A program that was left running: its number, its status, when it ends, the signals
that are turned off in it, when it has seen to that, and what else it has to do on signals.
Once it was `seen` to have ended it is gone, and once its status was `told` its place may
be taken. -/
structure Job where
  number : Nat
  status : Nat
  ending : Nat
  ignored : List Nat
  ready : Nat
  answers : List Answer
  seen : Bool
  told : Bool
  deriving DecidableEq, Repr

/-- How long it takes a program that is left running until it has seen to its signals. -/
def readyTime : Nat := 1000

/-- A program that started the one at hand, or one that did so before. It waits for it
unless it left it running. -/
structure Caller where
  number : Nat
  actions : List (Nat × String)
  ignored : List Nat
  waits : Bool
  deriving DecidableEq, Repr

/-- A signal on its way from one program to another, which is there at a time. -/
structure Notice where
  time : Nat
  sender : Nat
  target : Nat
  signal : Nat
  deriving DecidableEq, Repr

namespace Signal

/-- Whether a signal does nothing, by the actions for it and the signals that are turned
off. -/
def isLost (actions : List (Nat × String)) (ignored : List Nat) (signal : Nat) : Bool :=
  (actions.lookup signal == some "" && signal != 9) || ignored.elem signal

/-- Whether a signal ends a program at once, by the actions for it and the signals that
are turned off. -/
def isDeadly (actions : List (Nat × String)) (ignored : List Nat) (signal : Nat) : Bool :=
  Signal.ends signal && !ignored.elem signal && (signal == 9 || (actions.lookup signal).isNone)

/-- The signal that a program is sent when one that it started ends. -/
def childEnded : Nat := 17

end Signal

namespace Job

/-- What a program has to do on a signal that comes at a time, if that is not what is
done on it anyway. -/
def answer? (job : Job) (signal time : Nat) : Option Answer :=
  if signal = 9 then none
  else job.answers.find? fun a => a.signal = signal && a.first ≤ time && time < a.last

end Job

end SubordinateIds.Shell
