import SubordinateIds.Path.Basic

/-
  Commands — other programs as they are started, and how they end

  A command names everything the child gets: the program, the name it is told,
  its arguments, its whole environment and its three streams.

  Correspondence (program ↔ model):
    `StdioPolicy`             ↔ `Stream`
    `CommandSpec`             ↔ `Command`
    `CommandSpec` as text     ↔ `render`
    `ExitOutcome`             ↔ `Exit`
    `ExitOutcome::is_success` ↔ `isSuccess`
-/

namespace SubordinateIds

/-- What a stream of a child is connected to. -/
inductive Stream where
  | null
  | inherit
  deriving DecidableEq, Repr

/-- A program to be started. -/
structure Command where
  program : Path
  arg0 : String
  args : List String
  env : List (String × Octets)
  stdin : Stream
  stdout : Stream
  stderr : Stream
  deriving DecidableEq, Repr

/-- The program and its arguments with spaces between them. -/
def Command.render (c : Command) : String :=
  c.program.display ++ String.join (c.args.map (" " ++ ·))

/-- How a child ended. -/
inductive Exit where
  | exited (code : Int)
  | signaled (signal : Int)
  | unknown
  deriving DecidableEq, Repr

/-- Whether the child ended well. -/
def Exit.isSuccess (e : Exit) : Bool := e == .exited 0

end SubordinateIds
