/-
  System errors — how a request to the machine can fail

  The kinds are those that the program tells apart (`notFound`), those that a described machine
  is asked for, and those that a file tree answers with. Wherever else the program meets a
  failure it shows its wording and looks no further, so that any other kind is treated as
  `other` is. One kind is left out because it never comes up: a read that was interrupted is
  taken up again before the program hears of it.
-/

namespace SubordinateIds

/-- The kinds of failure of a request to the machine. -/
inductive SystemError where
  | notFound
  | permissionDenied
  | alreadyExists
  | wouldBlock
  | notADirectory
  | isADirectory
  | invalidInput
  | invalidData
  | timedOut
  | brokenPipe
  | unexpectedEof
  | unsupported
  | outOfMemory
  | argumentListTooLong
  | filesystemLoop
  | invalidFilename
  | uncategorized
  | other
  deriving DecidableEq, Repr

/-- The wording of a failure. -/
def SystemError.message : SystemError → String
  | .notFound => "entity not found"
  | .permissionDenied => "permission denied"
  | .alreadyExists => "entity already exists"
  | .wouldBlock => "operation would block"
  | .notADirectory => "not a directory"
  | .isADirectory => "is a directory"
  | .invalidInput => "invalid input parameter"
  | .invalidData => "invalid data"
  | .timedOut => "timed out"
  | .brokenPipe => "broken pipe"
  | .unexpectedEof => "unexpected end of file"
  | .unsupported => "unsupported"
  | .outOfMemory => "out of memory"
  | .argumentListTooLong => "argument list too long"
  | .filesystemLoop => "filesystem loop or indirection limit (e.g. symlink loop)"
  | .invalidFilename => "invalid filename"
  | .uncategorized => "uncategorized error"
  | .other => "other error"

instance : ToString SystemError := ⟨SystemError.message⟩

end SubordinateIds
