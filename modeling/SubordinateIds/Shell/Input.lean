import SubordinateIds.Shell.Arguments

/-
  Input — how `read` takes lines apart

  A line falls apart at separators, and the last variable takes what is left of it. A
  backslash keeps the next character from separating, and joins two lines.
-/

namespace SubordinateIds.Shell

namespace Builtin

/-- The names among the words after `read`. -/
def readNames : List String → Run (Bool × List String)
  | [] => return (false, [])
  | word :: rest =>
    match word.toList with
    | ['-', '-'] => return (false, rest)
    | ['-', 'r'] => return (true, (← readNames rest).2)
    | ['-', 'p'] => match rest with
      | [] => fault
      | _ :: rest => readNames rest
    | '-' :: 'p' :: _ => readNames rest
    | '-' :: _ :: _ => fault
    | _ => return (false, word :: rest)

/-- The characters of a line without its backslashes, each with whether it may
separate fields, and whether the line goes on on the next one. -/
def unescapeLine : List Char → List (Char × Bool) × Bool
  | [] => ([], false)
  | ['\\'] => ([], true)
  | '\\' :: c :: cs =>
    let (rest, goesOn) := unescapeLine cs
    ((c, false) :: rest, goesOn)
  | c :: cs =>
    let (rest, goesOn) := unescapeLine cs
    ((c, true) :: rest, goesOn)

/-- Takes lines up to one that does not go on on the next, behind characters that were
taken before. -/
def takeLines (before : List (Char × Bool)) : Nat → Run (List (Char × Bool) × Bool)
  | 0 => return (before, false)
  | fuel + 1 => do
    let (line, ended) ← takeLine
    let (chars, goesOn) := unescapeLine line
    if goesOn && ended then takeLines (before ++ chars) fuel else return (before ++ chars, ended)

/-- Takes a line. Unless it is taken as it is, a backslash at its end joins it to the next
one. -/
def takeJoined (raw : Bool) : Run (List (Char × Bool) × Bool) := do
  let (line, ended) ← takeLine
  if raw then return (line.map fun c => (c, true), ended)
  let (chars, goesOn) := unescapeLine line
  if goesOn && ended then takeLines chars ((← get).input.length + 1) else return (chars, ended)

/-- The first field of a line and the rest of it. -/
def firstField (isSeparator isBlank : Char × Bool → Bool) (cs : List (Char × Bool)) :
    List (Char × Bool) × List (Char × Bool) :=
  let cs := cs.dropWhile isBlank
  let field := cs.takeWhile (!isSeparator ·)
  let after := cs.drop field.length
  let rest := after.dropWhile isBlank
  match rest with
  | c :: more =>
    if isSeparator c && !isBlank c && after.head?.any isSeparator then (field, more)
    else (field, rest)
  | [] => (field, [])

/-- Gives variables the fields of a line; the last one takes what is left. -/
def assignFields (isSeparator isBlank : Char × Bool → Bool) :
    List String → List (Char × Bool) → Run Unit
  | [], _ => return
  | [name], cs => do
    if !isName name then fault
    let cs := cs.dropWhile isBlank
    let trimmed := (cs.reverse.dropWhile isBlank).reverse
    let (field, rest) := firstField isSeparator isBlank trimmed
    let whole := if rest.isEmpty then field else trimmed
    assign name (String.ofList (whole.map (·.1)))
  | name :: names, cs => do
    if !isName name then fault
    let (field, rest) := firstField isSeparator isBlank cs
    assign name (String.ofList (field.map (·.1)))
    assignFields isSeparator isBlank names rest

/-- Reads a line into variables. -/
def read (words : List String) : Run Unit := do
  let (raw, names) ← readNames words
  if names.isEmpty then fault
  let (line, ended) ← takeJoined raw
  let separators := (← get).separators
  let isSeparator (c : Char × Bool) : Bool := c.2 && separators.elem c.1
  let isBlank (c : Char × Bool) : Bool := isSeparator c && [' ', '\t', '\n'].elem c.1
  assignFields isSeparator isBlank names line
  leaveStatus (if ended then 0 else 1)

end Builtin

end SubordinateIds.Shell
