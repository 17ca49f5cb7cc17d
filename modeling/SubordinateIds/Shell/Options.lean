import SubordinateIds.Shell.Arguments

/-
  Options — what a shell can be told to do in another way

  An option has a letter and a name. A minus sign in front of its letter turns it on and
  a plus sign turns it off; after the letter `o` it goes by its name.
-/

namespace SubordinateIds.Shell

namespace Builtin

/-- The letters of the options, by their names. -/
def optionNames : List (String × Char) := [
  ("errexit", 'e'), ("noglob", 'f'), ("ignoreeof", 'I'), ("interactive", 'i'), ("monitor", 'm'),
  ("noexec", 'n'), ("stdin", 's'), ("xtrace", 'x'), ("verbose", 'v'), ("vi", 'V'), ("emacs", 'E'),
  ("noclobber", 'C'), ("allexport", 'a'), ("notify", 'b'), ("nounset", 'u'), ("privileged", 'p'),
  ("nolog", 'l'), ("debug", 'd')]

/-- Turns an option on or off. -/
def setOption (on : Bool) (option : Char) : Run Unit :=
  modify fun st =>
    let others := st.options.filter (· != option)
    { st with options := if on then others ++ [option] else others }

/-- Shows the options, each with whether it is on, or as the commands that set them. -/
def showOptions (asCommands : Bool) : Run Unit := do
  let st ← get
  let one (name : String) (option : Char) : String :=
    if asCommands then (if st.has option then "set -o " else "set +o ") ++ name
    else
      let fill := String.ofList (List.replicate (16 - name.length) ' ')
      name ++ fill ++ (if st.has option then "on" else "off")
  let lines := optionNames.map fun e => one e.1 e.2 ++ "\n"
  discard (write 1
    ((if asCommands then "" else "Current option settings\n") ++ String.join lines))

/-- Sets the options of a word, by their letters. The letter `o` takes the name of one
from the words after it, which are given back; without a name the options are shown.
`other` says what to do with the letters that are no option. -/
def setLetters (on : Bool) (other : Char → Run Unit) (rest : List String) :
    List Char → Run (List String)
  | [] => return rest
  | 'o' :: cs => do
    match rest with
    | [] =>
      showOptions !on
      setLetters on other [] cs
    | name :: rest =>
      match optionNames.lookup name with
      | some option => setOption on option
      | none => fault
      setLetters on other rest cs
  | c :: cs => do
    if optionLetters.elem c then setOption on c else other c
    setLetters on other rest cs

/-- Reads options and sets them; the words after them are given back, and whether
there are any to take the place of the arguments. -/
def setOptions : Nat → List String → Run (Option (List String))
  | 0, _ | _, [] => return none
  | fuel + 1, word :: rest =>
    match word.toList with
    | ['-', '-'] => return some rest
    | ['-'] => do
      setOption false 'x'
      setOption false 'v'
      return if rest.isEmpty then none else some rest
    | sign :: cs => do
      if sign = '-' || sign = '+' then
        setOptions fuel (← setLetters (sign = '-') (fun _ => fault) rest cs)
      else return some (word :: rest)
    | [] => return some (word :: rest)

end Builtin

end SubordinateIds.Shell
