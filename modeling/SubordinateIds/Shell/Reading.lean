import SubordinateIds.Shell.Script

/-
  Reading — from the text of a script to its clauses

  A script is read line by line, because a shell runs one line before it looks at
  the next: what stands before a line that cannot be read still counts. A line ends
  where a line end is not needed to complete a clause, so it may span several lines
  of text.

  Reading goes down from lists of clauses to words and from words, through the
  output of scripts, back to lists. `fuel` bounds that; every function takes the
  rest of the text in turn, so ten times the length of the text is enough.
-/

namespace SubordinateIds.Shell

/-- Names that stand for texts where a command may start. -/
abbrev Aliases := List (String × String)

/-- A name that was replaced by what it stands for: how much of the text is left after
that, and whether that ends in a blank. -/
structure Replaced where
  name : String
  left : Nat
  blank : Bool
  deriving DecidableEq, Repr

/-- What was replaced, after the end of the text, of which it may be a part, became
longer or shorter. -/
def Replaced.moved (r : Replaced) (before after : Nat) : Replaced :=
  { r with left := if r.left > before then r.left + after - before else min r.left after }

/-- Reads from the front of a text, or cannot. -/
abbrev Reader := ReaderT Aliases (StateT (List Char) (StateT (List Replaced) Option))

namespace Reader

/-- How a document is read: whether tabs at the start of its lines do not count,
whether all of it is plain text, and the line that ends it. -/
structure DocumentForm where
  tabs : Bool
  plain : Bool
  ending : List Char
  deriving DecidableEq, Repr

/-- The text from where a line of a document counts. -/
def DocumentForm.lineFrom (form : DocumentForm) (cs : List Char) : List Char :=
  if form.tabs then cs.dropWhile (· == '\t') else cs

/-- The text after the line that ends a document, if that line is next. -/
def DocumentForm.after? (form : DocumentForm) (cs : List Char) : Option (List Char) :=
  let line := cs.takeWhile (· != '\n')
  if line = form.ending then some (cs.drop (line.length + 1)) else none

/-- Where a part of a word stands: outside of quotes, in double quotes, in the
braces of a parameter (and there perhaps in quotes of its own), in a document, or in
a sum with so many open brackets. -/
inductive Place where
  | word
  | quotes
  | braces (quoted inner : Bool)
  | document (form : DocumentForm)
  | sum (depth : Nat)
  deriving DecidableEq, Repr

/-- Whether characters at the place are quoted. -/
def Place.isQuoted : Place → Bool
  | .word | .braces false _ => false
  | _ => true

/-- Whether a backslash stays in front of the character. -/
def Place.keepsBackslash (place : Place) (c : Char) : Bool :=
  match place with
  | .word | .braces false _ => false
  | .quotes | .sum _ => !"\\$`\"".toList.elem c
  | .braces true _ => !"\\$`\"\x7d".toList.elem c
  | .document _ => !"\\$`".toList.elem c

/-- Whether the character ends a word. -/
def endsWord (c : Char) : Bool := [' ', '\t', '\n', ';', '&', '|', '<', '>', '(', ')'].elem c

/-- The text with its lines joined in front: a backslash before the end of a line is
none, nor is that end. Characters of names do not count, and `count` others are looked
at; a blank or a mark that quotes ends that, and so does the start of a comment. -/
def joinLines (comments : Bool) : Nat → List Char → List Char
  | count, '\\' :: '\n' :: cs => joinLines comments count cs
  | count, c :: cs =>
    if inName c then c :: joinLines comments count cs
    else if [' ', '\t', '\n', '\\', '\'', '"', '`'].elem c || (comments && c = '#') then c :: cs
    else
      match count with
      | 0 => c :: cs
      | count + 1 => c :: joinLines (comments || c = '(') count cs
  | _, [] => []

/-- The text with its lines joined as far as one sign, or one word that is a name or is
reserved, may go. -/
def joinSign (cs : List Char) : List Char := joinLines true 4 cs

/-- The text from its first character that is no blank. A backslash before the end of
a line joins two lines; a comment ends with its line. -/
def skipBlanks : List Char → List Char
  | ' ' :: cs | '\t' :: cs | '\\' :: '\n' :: cs => skipBlanks cs
  | '#' :: cs => cs.dropWhile (· != '\n')
  | cs => joinSign cs

/-- The text from its first character that is neither a blank nor the end of a
line. -/
def skipLines (comment : Bool) : List Char → List Char
  | '\n' :: cs => skipLines false cs
  | c :: cs =>
    if comment || c = ' ' || c = '\t' then skipLines comment cs
    else if c = '#' then skipLines true cs
    else
      match c, cs with
      | '\\', '\n' :: rest => skipLines false rest
      | _, _ => joinSign (c :: cs)
  | [] => []

/-- The words that open, divide and close clauses. -/
def reservedWords : List String := [
  "if", "then", "elif", "else", "fi", "while", "until", "for", "in", "do", "done", "case", "esac",
  "\x7b", "\x7d", "!"]

/-- The words that end a list of clauses. -/
def closingWords : List String := ["then", "elif", "else", "fi", "do", "done", "esac", "\x7d"]

/-- The word at the front of a text, as it is written. -/
def wordAhead (cs : List Char) : String := String.ofList (cs.takeWhile fun c => !endsWord c)

/-- The reserved word at the front of a text. -/
def reserved? (cs : List Char) : Option String :=
  let word := wordAhead cs
  if reservedWords.elem word then some word else none

/-- Whether a redirection starts here. -/
def atRedirection : List Char → Bool
  | '<' :: _ | '>' :: _ => true
  | c :: '<' :: _ | c :: '>' :: _ => c.isDigit
  | _ => false

/-- Whether a name is in use where so much of the text is left: that is a part of what it
stands for. -/
def isInUse (replaced : List Replaced) (name : String) (left : Nat) : Bool :=
  replaced.any fun r => r.name = name && r.left < left

/-- Whether the word in front of a text may be replaced: it has no quotes, is not the
number of a stream, and is not in use. -/
def mayReplace (replaced : List Replaced) (word : String) (cs : List Char) : Bool :=
  !word.toList.any ['\'', '"', '\\', '$', '`'].elem && !atRedirection cs &&
    !isInUse replaced word cs.length

/-- The text with a name in front replaced by what it stands for, and so on with what is
in front then. Words that are reserved may be kept; `skip` tells what to pass over in front
of a word. -/
def expandAliases (aliases : Aliases) (skip : List Char → List Char) (keeps : Bool) :
    Nat → List Char → List Replaced → List Char × List Replaced
  | 0, cs, replaced => (cs, replaced)
  | fuel + 1, cs, replaced =>
    let word := wordAhead cs
    let stays := (keeps && (reserved? cs).isSome) || !mayReplace replaced word cs
    match if stays then none else (aliases.lookup word).map String.toList with
    | none => (cs, replaced)
    | some text =>
      let rest := cs.drop word.length
      let here : Replaced := ⟨word, rest.length, text.getLast?.any [' ', '\t'].elem⟩
      expandAliases aliases skip keeps fuel (skip (text ++ rest)) (here :: replaced)

/-- A bound of the length of a text in which names are replaced, none of them inside of
what it stands for itself. -/
def room (aliases : Aliases) (cs : List Char) : Nat :=
  aliases.foldl (fun room e => room * (e.2.length + 1)) (cs.length + 1)

/-- Replaces a name in front by what it stands for. -/
def expand (skip : List Char → List Char) (keeps : Bool) : Reader Unit := do
  let aliases ← read
  if aliases.isEmpty then return
  let cs ← get
  let (cs, replaced) :=
    expandAliases aliases skip keeps (room aliases cs) cs (← getThe (List Replaced))
  set cs
  set replaced

/-- Skips blanks. If one of them ends what a name stands for, the next word is replaced,
too. -/
def blanks : Reader Unit := do
  let before ← get
  modify skipBlanks
  let after ← get
  let replaced ← getThe (List Replaced)
  if replaced.any fun r => r.blank && after.length ≤ r.left && r.left < before.length then
    expand skipBlanks false

/-- Skips blanks and ends of lines. -/
def lines : Reader Unit := modify (skipLines false)

/-- Skips blanks, and perhaps ends of lines, up to where a command may start. -/
def opening (newlines : Bool) : Reader Unit := do
  let skip := if newlines then skipLines false else skipBlanks
  modify skip
  expand skip true

/-- Reads a word that has to be there. -/
def expect (word : String) : Reader Unit := do
  opening true
  guard (wordAhead (← get) = word)
  modify (·.drop word.length)

/-- Reads a character. -/
def expectChar (c : Char) : Reader Unit := do
  guard ((← get).head? = some c)
  modify List.tail

/-- Reads the characters up to a closing single quote. -/
def singleQuoted : Reader Word := do
  let cs ← get
  guard (cs.elem '\'')
  set (cs.dropWhile (· != '\'')).tail
  return .mark :: (cs.takeWhile (· != '\'')).map (Part.text true)

/-- The parts between two quotes. The arguments alone make no word if there are
none, whatever else stands in quotes makes one. -/
def inQuotes : Word → Word
  | [.parameter quoted "@" .value []] => [.parameter quoted "@" .value []]
  | word => .mark :: word

/-- Reads the character after a backslash. `acc` has the parts before, backwards. -/
def escaped (place : Place) (acc : Word) : Reader Word := do
  match ← get with
  | [] => return .text true '\\' :: acc
  | c :: rest =>
    set rest
    if c = '\n' then return acc
    else if place.keepsBackslash c then return .text true c :: .text true '\\' :: acc
    else return .text true c :: acc

/-- The script between backquotes, and the text after them. -/
def backquoted? (quoted : Bool) : List Char → Option (List Char × List Char)
  | [] => none
  | '`' :: rest => some ([], rest)
  | '\\' :: c :: rest => do
    let (script, rest) ← backquoted? quoted rest
    if c = '\n' then return (script, rest)
    else if ['\\', '`', '$'].elem c || (quoted && c = '"') then return (c :: script, rest)
    else return ('\\' :: c :: script, rest)
  | c :: rest => do
    let (script, rest) ← backquoted? quoted rest
    return (c :: script, rest)

/-- The use of a parameter after its name, and the text after that. -/
def use : List Char → Use × List Char
  | '\x7d' :: cs => (.value, '\x7d' :: cs)
  | ':' :: '-' :: cs => (.orElse true, cs)
  | ':' :: '+' :: cs => (.ifSet true, cs)
  | ':' :: '=' :: cs => (.assign true, cs)
  | ':' :: '?' :: cs => (.demand true, cs)
  | ':' :: '\x7d' :: cs => (.unknown, cs)
  | '-' :: cs => (.orElse false, cs)
  | '+' :: cs => (.ifSet false, cs)
  | '=' :: cs => (.assign false, cs)
  | '?' :: cs => (.demand false, cs)
  | '%' :: '%' :: cs => (.trim true true, cs)
  | '%' :: cs => (.trim true false, cs)
  | '#' :: '#' :: cs => (.trim false true, cs)
  | '#' :: cs => (.trim false false, cs)
  | cs => (.unknown, cs)

/-- The name at the front of a text, which is empty if there is none. -/
def name (cs : List Char) : String :=
  match cs with
  | [] => ""
  | c :: _ =>
    if startsName c then String.ofList (cs.takeWhile inName)
    else if c.isDigit then String.ofList (cs.takeWhile Char.isDigit)
    else if isSpecial c then String.singleton c
    else ""

/-- The name and the use of a parameter in braces, and the text after them. -/
def nameAndUse (cs : List Char) : String × Use × List Char :=
  let measured := name cs.tail
  let after := cs.tail.drop measured.length
  let isLength := after.head? = some '\x7d'
  if cs.head? = some '#' && measured != "" && isLength then (measured, .length, after)
  else if cs.head? = some '#' && measured.toList.head?.any inName then
    (measured, .unknown, after)
  else if cs.head? = some '#' && measured = "" && !isLength && after[1]? = some '\x7d' then
    ("#", .unknown, after)
  else
    let name := name cs
    let (use, rest) := use (cs.drop name.length)
    (name, if name = "" then .unknown else use, rest)

/-- The characters of a word without its quotes, and whether it has any. -/
def plainText (word : Word) : List Char × Bool :=
  (word.filterMap fun | .text _ c => some c | _ => none,
    word.any fun | .text quoted _ => quoted | .mark => true | _ => false)

/-- The name that a text starts with an assignment to. -/
def assigned? (cs : List Char) : Option String :=
  let name := cs.takeWhile inName
  if isName (String.ofList name) && (cs.drop name.length).head? = some '=' then
    some (String.ofList name)
  else none

/-- Reads the sign of a redirection: the stream it is for, its direction, and
whether a document that starts with tabs follows. -/
def redirectionSign : Reader (Nat × Direction × Bool) := do
  let cs ← get
  let digits := cs.takeWhile Char.isDigit
  let sign := cs.drop digits.length
  let stream (otherwise : Nat) : Nat :=
    match digits with
    | c :: _ => c.toNat - '0'.toNat
    | [] => otherwise
  let (stream, direction, tabs, rest) ← match sign with
    | '<' :: '<' :: '-' :: rest => pure (stream 0, Direction.document, true, rest)
    | '<' :: '<' :: rest => pure (stream 0, .document, false, rest)
    | '<' :: '&' :: rest => pure (stream 0, .same, false, rest)
    | '<' :: '>' :: rest => pure (stream 0, .both, false, rest)
    | '<' :: rest => pure (stream 0, .read, false, rest)
    | '>' :: '>' :: rest => pure (stream 1, .append, false, rest)
    | '>' :: '&' :: rest => pure (stream 1, .same, false, rest)
    | '>' :: '|' :: rest => pure (stream 1, .replace, false, rest)
    | '>' :: rest => pure (stream 1, .write, false, rest)
    | _ => failure
  set (skipBlanks rest)
  return (stream, direction, tabs)

/-- The word that ends a document, without its quotes, whether it has any, and the text
after it. `quote` is the quote that is open. Nothing but quotes and backslashes is special
in such a word. -/
def ending? : Option Char → List Char → Option ((List Char × Bool) × List Char)
  | quote, [] => if quote.isNone then some (([], false), []) else none
  | some '\'', c :: cs => do
    let ((word, _), rest) ← ending? (if c = '\'' then none else some '\'') cs
    return ((if c = '\'' then word else c :: word, true), rest)
  | quote, '\\' :: '\n' :: cs => ending? quote cs
  | quote, '\\' :: c :: cs => do
    let ((word, _), rest) ← ending? quote cs
    let kept := quote.isSome && Place.quotes.keepsBackslash c
    return ((if kept then '\\' :: c :: word else c :: word, true), rest)
  | quote, '"' :: cs => do
    let ((word, _), rest) ← ending? (if quote.isSome then none else some '"') cs
    return ((word, true), rest)
  | none, '\'' :: cs => do
    let ((word, _), rest) ← ending? (some '\'') cs
    return ((word, true), rest)
  | quote, c :: cs =>
    if quote.isNone && endsWord c then some (([], false), c :: cs)
    else do
      let ((word, quoted), rest) ← ending? quote cs
      return ((c :: word, quoted), rest)

/-- Reads the word that ends a document. Whether it was quoted is given back, too. -/
def documentEnding : Reader (List Char × Bool) := do
  let (word, rest) ← ending? none (← get)
  set rest
  return word

/-- Whether a list of clauses ends here. -/
def atListEnd (cs : List Char) : Bool :=
  match cs with
  | [] | ')' :: _ | ';' :: ';' :: _ => true
  | _ => (reserved? cs).any closingWords.elem

mutual

/-- Reads the parts of a word up to the end of its place. `acc` has the parts
before, backwards. -/
def parts : Nat → Place → Word → Reader Word
  | 0, _, _ => failure
  | fuel + 1, place, acc => do
    match ← get with
    | [] =>
      match place with
      | .word | .document _ => return acc.reverse
      | _ => failure
    | c :: rest =>
      if place = .word && endsWord c then return acc.reverse
      set rest
      let literal := Part.text place.isQuoted c
      match c, place with
      | '\n', .document form =>
        let rest := form.lineFrom rest
        match form.after? rest with
        | some rest =>
          set rest
          return (literal :: acc).reverse
        | none =>
          set rest
          parts fuel place (literal :: acc)
      | _, .document ⟨_, true, _⟩ => parts fuel place (literal :: acc)
      | '\\', _ => parts fuel place (← escaped place acc)
      | '\'', .word | '\'', .braces false _ =>
        parts fuel place ((← singleQuoted).reverse ++ acc)
      | '"', .word | '"', .braces false _ =>
        parts fuel place ((inQuotes (← parts fuel .quotes [])).reverse ++ acc)
      | '"', .quotes => return acc.reverse
      | '"', .braces true inner => parts fuel (.braces true !inner) acc
      | '$', _ => parts fuel place ((← dollar fuel place.isQuoted) :: acc)
      | '`', _ => do
        let (script, rest) ← backquoted? place.isQuoted rest
        set rest
        let replaced ← getThe (List Replaced)
        let others := (← read).filter fun e => !isInUse replaced e.1 (rest.length + 1)
        let ((clauses, _), _) ← (((list fuel).run others).run script).run []
        parts fuel place (.output place.isQuoted clauses :: acc)
      | '\x7d', .braces _ false => return acc.reverse
      | '(', .sum depth => parts fuel (.sum (depth + 1)) (literal :: acc)
      | ')', .sum 0 =>
        if rest.head? = some ')' then do
          set rest.tail
          return acc.reverse
        else parts fuel place (literal :: acc)
      | ')', .sum (depth + 1) => parts fuel (.sum depth) (literal :: acc)
      | _, _ => parts fuel place (literal :: acc)

/-- Reads what follows a dollar sign. -/
def dollar : Nat → Bool → Reader Part
  | 0, _ => failure
  | fuel + 1, quoted => do
    match joinLines false 4 (← get) with
    | '(' :: '(' :: rest =>
      set rest
      return .sum quoted (← parts fuel (.sum 0) [])
    | '(' :: rest =>
      set rest
      let clauses ← list fuel
      lines
      expectChar ')'
      return .output quoted clauses
    | '\x7b' :: rest =>
      let (name, use, rest) := nameAndUse rest
      set rest
      let place := match use with
        | .trim _ _ => .braces false false
        | _ => .braces quoted false
      return .parameter quoted name use (← parts fuel place [])
    | cs =>
      let name := match cs with
        | c :: _ => if c.isDigit then String.singleton c else name cs
        | [] => ""
      set (cs.drop name.length)
      return if name = "" then .text quoted '$' else .parameter quoted name .value []

/-- Reads a list of clauses, which may be empty. -/
def list : Nat → Reader (List Clause)
  | 0 => failure
  | fuel + 1 => do
    opening true
    if atListEnd (← get) then return []
    let clause ← joined fuel (← pipeline fuel)
    blanks
    match ← get with
    | ';' :: ';' :: _ => return [clause]
    | '&' :: rest =>
      set rest
      return .background clause :: (← list fuel)
    | ';' :: rest | '\n' :: rest =>
      set rest
      return clause :: (← list fuel)
    | _ => return [clause]

/-- Reads a list of clauses that is not empty. -/
def body : Nat → Reader Clause
  | 0 => failure
  | fuel + 1 => do
    let clauses ← list fuel
    guard !clauses.isEmpty
    return .sequence clauses

/-- Reads the clauses that are joined to one. -/
def joined : Nat → Clause → Reader Clause
  | 0, _ => failure
  | fuel + 1, clause => do
    blanks
    match ← get with
    | '&' :: '&' :: rest =>
      set rest
      opening true
      joined fuel (.both clause (← pipeline fuel))
    | '|' :: '|' :: rest =>
      set rest
      opening true
      joined fuel (.either clause (← pipeline fuel))
    | _ => return clause

/-- Reads commands that feed one another. -/
def pipeline : Nat → Reader Clause
  | 0 => failure
  | fuel + 1 => do
    opening false
    let negated := reserved? (← get) = some "!"
    if negated then modify List.tail
    let first ← command fuel
    let others ← fed fuel
    let clause := if others.isEmpty then first else .pipeline (first :: others)
    return if negated then .negation clause else clause

/-- Reads the commands that are fed by the ones before. -/
def fed : Nat → Reader (List Clause)
  | 0 => failure
  | fuel + 1 => do
    blanks
    match ← get with
    | '|' :: '|' :: _ => return []
    | '|' :: rest =>
      set rest
      opening true
      return (← command fuel) :: (← fed fuel)
    | _ => return []

/-- Reads a command, simple or not. -/
def command : Nat → Reader Clause
  | 0 => failure
  | fuel + 1 => do
    opening false
    let cs ← get
    let word := reserved? cs
    modify (·.drop (word.getD "").length)
    let clause ← match word, cs with
      | some "if", _ => choice fuel
      | some "while", _ => loop fuel true
      | some "until", _ => loop fuel false
      | some "for", _ => each fuel
      | some "case", _ => do
        blanks
        let word ← parts fuel .word []
        guard !word.isEmpty
        expect "in"
        pure (.select word (← branches fuel))
      | some "\x7b", _ => do
        let clause ← body fuel
        expect "\x7d"
        pure clause
      | some _, _ => failure
      | none, '(' :: rest => do
        set rest
        let clause ← body fuel
        lines
        expectChar ')'
        pure (.subshell clause)
      | none, _ => simple fuel [] [] []
    if word.isSome || cs.head? = some '(' then opening false
    let redirections ← redirections fuel
    return if redirections.isEmpty then clause else .redirected clause redirections

/-- Reads the rest of a choice, from its condition on. -/
def choice : Nat → Reader Clause
  | 0 => failure
  | fuel + 1 => do
    let condition ← body fuel
    expect "then"
    let yes ← body fuel
    lines
    match reserved? (← get) with
    | some "elif" =>
      expect "elif"
      return .choice condition yes (some (← choice fuel))
    | some "else" =>
      expect "else"
      let no ← body fuel
      expect "fi"
      return .choice condition yes (some no)
    | _ =>
      expect "fi"
      return .choice condition yes none

/-- Reads the rest of a loop with a condition. -/
def loop : Nat → Bool → Reader Clause
  | 0, _ => failure
  | fuel + 1, expected => do
    let condition ← body fuel
    expect "do"
    let clause ← body fuel
    expect "done"
    return .loop expected condition clause

/-- Reads the rest of a loop over words. -/
def each : Nat → Reader Clause
  | 0 => failure
  | fuel + 1 => do
    blanks
    let (name, _) := plainText (← parts fuel .word [])
    guard (isName (String.ofList name))
    opening true
    let given ← do
      if wordAhead (← get) = "in" then
        modify (·.drop 2)
        let given ← words fuel
        blanks
        guard ((← get).head?.any fun c => c = ';' || c = '\n')
        modify List.tail
        pure (some given)
      else
        if (← get).head? = some ';' then modify List.tail
        pure none
    expect "do"
    let clause ← body fuel
    expect "done"
    return .each (String.ofList name) given clause

/-- Reads words. -/
def words : Nat → Reader (List Word)
  | 0 => failure
  | fuel + 1 => do
    blanks
    if (← get).head?.all endsWord then return []
    let word ← parts fuel .word []
    return word :: (← words fuel)

/-- Reads the branches of a selection. -/
def branches : Nat → Reader (List (List Word × Clause))
  | 0 => failure
  | fuel + 1 => do
    lines
    if reserved? (← get) = some "esac" then
      expect "esac"
      return []
    if (← get).head? = some '(' then modify List.tail
    let patterns ← alternatives fuel
    let clauses ← list fuel
    lines
    match ← get with
    | ';' :: ';' :: rest =>
      set rest
      return (patterns, .sequence clauses) :: (← branches fuel)
    | _ =>
      expect "esac"
      return [(patterns, .sequence clauses)]

/-- Reads the patterns of a branch. -/
def alternatives : Nat → Reader (List Word)
  | 0 => failure
  | fuel + 1 => do
    blanks
    let word ← parts fuel .word []
    guard !word.isEmpty
    blanks
    match ← get with
    | '|' :: rest =>
      set rest
      return word :: (← alternatives fuel)
    | _ =>
      expectChar ')'
      return [word]

/-- Reads a simple command, or the definition of a function. What was read of it is
kept backwards. -/
def simple : Nat → List (String × Word) → List Word → List Redirection → Reader Clause
  | 0, _, _, _ => failure
  | fuel + 1, assignments, words, redirections => do
    blanks
    if words.isEmpty && !(assignments.isEmpty && redirections.isEmpty) then expand skipBlanks false
    let cs ← get
    if atRedirection cs then
      simple fuel assignments words ((← redirection fuel) :: redirections)
    else if cs.head?.all endsWord then
      match cs, assignments, words, redirections with
      | '(' :: rest, [], [word], [] =>
        set (skipBlanks rest)
        expectChar ')'
        let (name, quoted) := plainText word
        let name := String.ofList name
        guard (isName name && !quoted && !specialCommands.elem name)
        opening true
        return .function name (← command fuel)
      | _, _, _, _ =>
        guard !(assignments.isEmpty && words.isEmpty && redirections.isEmpty)
        return .simple assignments.reverse words.reverse redirections.reverse
    else
      match if words.isEmpty then assigned? cs else none with
      | some name =>
        set (cs.drop (name.length + 1))
        let word ← parts fuel .word []
        simple fuel ((name, word) :: assignments) words redirections
      | none =>
        let word ← parts fuel .word []
        simple fuel assignments (word :: words) redirections

/-- Reads redirections. -/
def redirections : Nat → Reader (List Redirection)
  | 0 => failure
  | fuel + 1 => do
    blanks
    if atRedirection (← get) then return (← redirection fuel) :: (← redirections fuel)
    else return []

/-- Reads a redirection. -/
def redirection : Nat → Reader Redirection
  | 0 => failure
  | fuel + 1 => do
    let (stream, direction, tabs) ← redirectionSign
    if direction ≠ .document then
      let word ← parts fuel .word []
      guard !word.isEmpty
      return .to stream direction word
    let (ending, quoted) ← documentEnding
    guard (quoted || !ending.isEmpty)
    let form : DocumentForm := ⟨tabs, quoted, ending⟩
    let cs ← get
    let below := (cs.dropWhile (· != '\n')).tail
    let text := form.lineFrom below
    let replaced ← getThe (List Replaced)
    let (body, rest) ← match form.after? text with
      | some rest => pure ([], rest)
      | none => do
        let (read, _) ← (((parts fuel (.document form) []).run (← read)).run text).run replaced
        pure read
    set (cs.takeWhile (· != '\n') ++ '\n' :: rest)
    set (replaced.map (·.moved below.length rest.length))
    return .to stream .document body

end

/-- Reads the clauses of a line. -/
def line : Nat → Reader (List Clause)
  | 0 => failure
  | fuel + 1 => do
    opening false
    match ← get with
    | [] => return []
    | '\n' :: rest =>
      set rest
      return []
    | cs =>
      let fuel' := 10 * room (← read) cs + 50
      let clause ← joined fuel' (← pipeline fuel')
      blanks
      match ← get with
      | [] => return [clause]
      | '\n' :: rest =>
        set rest
        return [clause]
      | '&' :: rest =>
        set rest
        return .background clause :: (← line fuel)
      | ';' :: rest =>
        set rest
        return clause :: (← line fuel)
      | _ => failure

end Reader

/-- The clauses of the first line of a script, and the text after that line, with the
names that were replaced. -/
def readLine? (aliases : Aliases) (script : List Char) (replaced : List Replaced) :
    Option ((List Clause × List Char) × List Replaced) :=
  (((Reader.line (Reader.room aliases script)).run aliases).run script).run replaced

end SubordinateIds.Shell
