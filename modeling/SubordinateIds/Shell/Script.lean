/-
  Scripts — what the text of a script says, once it has been read

  A word is a list of parts: characters, parameters, the output of a script, and
  sums. A script is made of clauses: simple commands, and clauses built of smaller
  ones. Words hold scripts and clauses hold words, so the three types are defined
  together.

  Everything is kept as octets: a character here stands for one octet.
-/

namespace SubordinateIds.Shell

/-- What is asked of a parameter besides its value. `nonempty` tells that an empty
value counts as none; a `trim` takes a part that fits a pattern off one end. A use
that is `unknown` goes wrong when it is reached. -/
inductive Use where
  | value
  | length
  | orElse (nonempty : Bool)
  | ifSet (nonempty : Bool)
  | assign (nonempty : Bool)
  | demand (nonempty : Bool)
  | trim (atEnd longest : Bool)
  | unknown
  deriving DecidableEq, Repr

/-- What a redirection does with a stream. A file that is there may be protected from
being written anew, but not from being replaced. -/
inductive Direction where
  | read
  | write
  | replace
  | append
  | both
  | same
  | document
  deriving DecidableEq, Repr

mutual

/-- A part of a word. A `mark` stands for quotation marks, which make a word of
what would otherwise be nothing. -/
inductive Part where
  | text (quoted : Bool) (c : Char)
  | mark
  | parameter (quoted : Bool) (name : String) (use : Use) (word : List Part)
  | output (quoted : Bool) (script : List Clause)
  | sum (quoted : Bool) (body : List Part)

/-- A stream, what is done with it, and the word that goes with that. -/
inductive Redirection where
  | to (stream : Nat) (direction : Direction) (word : List Part)

/-- A command, or a clause made of commands. -/
inductive Clause where
  | simple (assignments : List (String × List Part)) (words : List (List Part))
      (redirections : List Redirection)
  | pipeline (members : List Clause)
  | negation (body : Clause)
  | both (first second : Clause)
  | either (first second : Clause)
  | sequence (body : List Clause)
  | background (body : Clause)
  | subshell (body : Clause)
  | choice (condition yes : Clause) (no : Option Clause)
  | loop (expected : Bool) (condition body : Clause)
  | each (name : String) (words : Option (List (List Part))) (body : Clause)
  | select (word : List Part) (branches : List (List (List Part) × Clause))
  | function (name : String) (body : Clause)
  | redirected (body : Clause) (redirections : List Redirection)

end

/-- A word as it is written. -/
abbrev Word := List Part

/-- Whether the character may start a name. -/
def startsName (c : Char) : Bool := c.isAlpha || c == '_'

/-- Whether the character may stand in a name. -/
def inName (c : Char) : Bool := c.isAlphanum || c == '_'

/-- Whether the word may name a variable. -/
def isName (word : String) : Bool :=
  (word.toList.head?.any startsName) && word.toList.all inName

/-- Whether the character is a parameter by itself. -/
def isSpecial (c : Char) : Bool := c.isDigit || ['$', '?', '#', '*', '@', '!', '-'].contains c

/-- The commands whose failure ends a shell, and which no function may replace. -/
def specialCommands : List String := [
  ".", ":", "break", "continue", "eval", "exec", "exit", "export", "local", "readonly", "return",
  "set", "shift", "times", "trap", "unset"]

end SubordinateIds.Shell
