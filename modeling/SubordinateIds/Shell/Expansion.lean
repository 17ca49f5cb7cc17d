import SubordinateIds.Shell.Formula
import SubordinateIds.Shell.Matching

/-
  Expansion — what the words of a script stand for while it runs

  A word becomes pieces: characters that were written or quoted, characters that
  came out of a parameter, and the places where one field ends and the next begins.
  Pieces become fields; characters that came out of a parameter outside of quotes
  fall apart at separators, and nothing else does.

  The output of a script is found by running it. `script` stands for that here.
-/

namespace SubordinateIds.Shell

/-- A piece of an expanded word: a character that was quoted, one that was written
outside of quotes, one that came out of a parameter outside of quotes, the end of a
field, and the sign that there is a field even if it is empty. -/
inductive Piece where
  | quoted (c : Char)
  | written (c : Char)
  | found (c : Char)
  | cut
  | mark
  deriving DecidableEq, Repr

namespace Piece

/-- The pieces of a value. -/
def ofValue (quoted : Bool) (value : String) : List Piece :=
  value.toList.map (if quoted then .quoted else .found)

/-- The characters of a value, with a NUL where a field ends. -/
def line : Piece → List Char
  | .quoted c | .written c | .found c => [c]
  | .cut => ['\x00']
  | .mark => []

/-- The pieces of a value whose fields end at NULs. -/
def ofLine (quoted : Bool) (cs : List Char) : List Piece :=
  let marks : List Piece := if quoted && cs.elem '\x00' then [.mark] else []
  marks ++ cs.flatMap fun c =>
    if c = '\x00' then .cut :: marks else [if quoted then .quoted c else .found c]

/-- The piece as part of a word that stands in for a value outside of quotes. -/
def asFound : Piece → Piece
  | .written c => .found c
  | piece => piece

/-- The characters of a piece, each with whether it may be wild in a pattern. Fields
that stay together are joined by the joiner. -/
def chars (joiner : String) : Piece → List (Char × Bool)
  | .quoted c => [(c, false)]
  | .written c | .found c => [(c, true)]
  | .cut => joiner.toList.map fun c => (c, false)
  | .mark => []

/-- The field that was collected backwards, if there is one. -/
def field (chars : Option (List (Char × Bool))) : List (List (Char × Bool)) :=
  (chars.map List.reverse).toList

/-- The fields that pieces make up, whose characters come with whether they may be wild
in a pattern. `chars` has the field at hand, backwards; `blank` tells that a blank has
just ended a field, so that one separator that is no blank may follow without making
an empty one. -/
def fields (separators : List Char) (chars : Option (List (Char × Bool))) (blank : Bool) :
    List Piece → List (List (Char × Bool))
  | [] => field chars
  | .quoted c :: rest => fields separators (some ((c, false) :: chars.getD [])) false rest
  | .written c :: rest => fields separators (some ((c, true) :: chars.getD [])) false rest
  | .found c :: rest =>
    if !separators.elem c then
      fields separators (some ((c, true) :: chars.getD [])) false rest
    else if [' ', '\t', '\n'].elem c then
      field chars ++ fields separators none (blank || chars.isSome) rest
    else if chars.isNone && blank then fields separators none false rest
    else field (some (chars.getD [])) ++ fields separators none false rest
  | .cut :: rest => field chars ++ fields separators none false rest
  | .mark :: rest => fields separators (some (chars.getD [])) false rest

end Piece

/-- The arguments, each a field of its own. -/
def argumentPieces (quoted : Bool) (args : List String) : List Piece :=
  let one (arg : String) : List Piece :=
    if quoted then .mark :: Piece.ofValue true arg else Piece.ofValue false arg
  ((args.map one).intersperse [.cut]).flatten

/-- The pieces of the value of a parameter. -/
def valuePieces (st : State) (quoted : Bool) (name : String) : Option (List Piece) :=
  if name = "@" || (name = "*" && !quoted) then some (argumentPieces quoted st.args)
  else (st.value? name).map (Piece.ofValue quoted)

/-- The value of a parameter that may have to be set. -/
def demanded (name : String) : Run String := do
  let st ← get
  match st.value? name with
  | some value => return value
  | none => if st.has 'u' && name != "@" && name != "*" then fault else return ""

/-- The text of pieces that stay together. -/
def joinedText (pieces : List Piece) : Run String := do
  let joiner := (← get).joiner
  return String.ofList ((pieces.flatMap (Piece.chars joiner)).map (·.1))

/-- The pattern of pieces that stay together. What was quoted is not wild. -/
def joinedPattern (pieces : List Piece) : Run Pattern := do
  let joiner := (← get).joiner
  return Pattern.of (pieces.flatMap (Piece.chars joiner))

/-- Evaluates a text as a formula, and assigns what it assigns. -/
def evaluate (text : String) : Run String := do
  let st ← get
  match Formula.read? text with
  | none => fault
  | some formula =>
    match (formula.value st.valueOf).run [] with
    | none => fault
    | some (n, assigned) =>
      assigned.reverse.forM fun e => assign e.1 (toString e.2)
      return toString n

/-- The output of a script as a value: without NULs, which no value holds, and without the
ends of lines after it. -/
def asValue (output : String) : String :=
  String.ofList (((output.toList.filter (· != '\x00')).reverse.dropWhile (· == '\n')).reverse)

mutual

/-- The pieces of a word. `depth` bounds how deep words stand in each other. -/
def pieces (script : List Clause → Run String) : Nat → Word → Run (List Piece)
  | 0, _ => fault
  | depth + 1, word => do return (← word.mapM (partPieces script depth)).flatten

/-- The pieces of a part of a word. -/
def partPieces (script : List Clause → Run String) : Nat → Part → Run (List Piece)
  | 0, _ => fault
  | depth + 1, part => do
    match part with
    | .text true c => return [.quoted c]
    | .text false c => return [.written c]
    | .mark => return [.mark]
    | .output quoted clauses => return Piece.ofValue quoted (asValue (← script clauses))
    | .sum quoted body =>
      return Piece.ofValue quoted (← evaluate (← joinedText (← pieces script depth body)))
    | .parameter quoted name use word =>
      let st ← get
      let found := valuePieces st quoted name
      let isSet (nonempty : Bool) : Bool :=
        found.any fun pieces => !nonempty || !(pieces.flatMap (Piece.chars st.joiner)).isEmpty
      let other : Run (List Piece) := do
        let inner ← pieces script depth word
        return if quoted then inner else inner.map Piece.asFound
      match use with
      | .value =>
        match found with
        | some pieces => return pieces
        | none => return Piece.ofValue quoted (← demanded name)
      | .length => return Piece.ofValue quoted (toString (← demanded name).length)
      | .orElse nonempty => if isSet nonempty then return found.getD [] else other
      | .ifSet nonempty => if isSet nonempty then other else return []
      | .assign nonempty =>
        if isSet nonempty then return found.getD []
        let value ← joinedText (← other)
        if !isName name then fault
        assign name value
        return Piece.ofValue quoted value
      | .demand nonempty => if isSet nonempty then return found.getD [] else fault
      | .trim atEnd longest =>
        if found.isNone then discard (demanded name)
        let some value := found | return []
        let pattern ← joinedPattern (← pieces script depth word)
        return Piece.ofLine quoted (pattern.trim atEnd longest (value.flatMap Piece.line))
      | .unknown => fault

end

/-- The home directory that a name after a tilde stands for. -/
def home? (st : State) (user : String) : Option String :=
  if user = "" then (st.binding? "HOME").bind (·.value)
  else if user = "root" then some "/root"
  else none

/-- The name after a tilde, which ends at a slash; with `everywhere` a colon ends it,
too. What is quoted in there makes it no name. -/
def tildeUser (everywhere : Bool) : Word → Option (List Char)
  | [] => some []
  | .text false c :: rest =>
    if c = '/' || (everywhere && c = ':') then some []
    else (tildeUser everywhere rest).map (c :: ·)
  | _ => none

/-- A word in which a tilde at the start stands for a home directory. With
`everywhere` one after a colon does, too. `skip` parts have been used up. -/
def homeParts (st : State) (everywhere : Bool) : Bool → Nat → Word → Word
  | _, _, [] => []
  | _, skip + 1, _ :: rest => homeParts st everywhere false skip rest
  | start, 0, part :: rest =>
    match part with
    | .text false '~' =>
      let found := do
        let user ← if start then tildeUser everywhere rest else none
        return (← home? st (String.ofList user), user.length)
      match found with
      | some (home, used) =>
        home.toList.map (Part.text true) ++ homeParts st everywhere false used rest
      | none => part :: homeParts st everywhere false 0 rest
    | .text false c => part :: homeParts st everywhere (everywhere && c = ':') 0 rest
    | _ => part :: homeParts st everywhere false 0 rest

/-- How deep words may stand in each other. -/
def wordDepth : Nat := 1000

/-- The fields of a word. One that is a pattern of paths stands for those paths, if there
are any. -/
def wordFields (script : List Clause → Run String) (word : Word) : Run (List String) := do
  let found ← pieces script wordDepth (homeParts (← get) false true 0 word)
  let st ← get
  return (Piece.fields st.separators none false found).flatMap fun chars =>
    let paths := if st.has 'f' then [] else st.pathsLike chars
    if paths.isEmpty then [String.ofList (chars.map (·.1))] else paths

/-- The text of a word that stays together. -/
def wordText (script : List Clause → Run String) (word : Word) : Run String := do
  joinedText (← pieces script wordDepth (homeParts (← get) false true 0 word))

/-- The text of a word that is assigned to a variable. -/
def assignedText (script : List Clause → Run String) (word : Word) : Run String := do
  joinedText (← pieces script wordDepth (homeParts (← get) true true 0 word))

/-- The pattern of a word. -/
def wordPattern (script : List Clause → Run String) (word : Word) : Run Pattern := do
  joinedPattern (← pieces script wordDepth (homeParts (← get) false true 0 word))

end SubordinateIds.Shell
