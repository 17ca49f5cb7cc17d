import SubordinateIds.Shell.State

/-
  Arguments — the words that commands are given, and what commands answer

  Options stand in front of the other words, a dash before each group of letters. A
  number is a status or a count. A text that is shown in quotes can be read again by a
  script.
-/

namespace SubordinateIds.Shell

/-- Writes a text for a command, which fails if it cannot be written. -/
def say (text : String) (status : Nat) : Run Unit := do
  leaveStatus (if ← write 1 text then status else status ||| 1)

/-- The status that a word asks for. -/
def demandCount (word : String) : Run Nat :=
  match count? word with
  | some n => pure n
  | none => fault

/-- The letters of the options in front of words, and the words after them. An option
that is not among the known ones goes wrong. -/
def options (known : List Char) : List String → Run (List Char × List String)
  | [] => return ([], [])
  | word :: rest =>
    match word.toList with
    | ['-', '-'] => return ([], rest)
    | '-' :: c :: cs => do
      if !(c :: cs).all known.elem then fault
      let (letters, words) ← options known rest
      return (c :: cs ++ letters, words)
    | _ => return ([], word :: rest)

namespace Builtin

/-- A text in quotes, as a script could have it. -/
def quote (text : String) : String :=
  let isQuote (c : Char) : Bool := c == '\''
  let runs := text.toList.splitBy fun a b => isQuote a == isQuote b
  let start := if text.toList.head?.all isQuote then ['\'', '\''] else []
  String.ofList (start ++ (runs.map fun run =>
    let mark := if run.any isQuote then '"' else '\''
    mark :: run ++ [mark]).flatten)

end Builtin

end SubordinateIds.Shell
