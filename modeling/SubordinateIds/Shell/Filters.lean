import SubordinateIds.Shell.Builtin
import SubordinateIds.Shell.Expression
import SubordinateIds.Shell.Program
import SubordinateIds.Shell.Reckoning

/-
  Filters — the programs that read lines and write some of them

  A filter takes options and files; the input stands in for the files if there are
  none. What it cannot do leaves a bad status, and nothing more.
-/

namespace SubordinateIds.Shell

namespace Filter

/-- The options among words, each with its value, and the other words. Options may stand
anywhere before two dashes; those in `valued` take the rest of their word, or the next
word, as their value. -/
def options? (plain valued : List Char) :
    Nat → List String → Option (List (Char × String) × List String)
  | 0, _ => none
  | _, [] => some ([], [])
  | fuel + 1, word :: rest =>
    let rec letters : List Char → Option (List (Char × String) × List String)
      | [] => options? plain valued fuel rest
      | c :: cs =>
        if plain.elem c then (letters cs).map fun e => ((c, "") :: e.1, e.2)
        else if !valued.elem c then none
        else if !cs.isEmpty then
          (options? plain valued fuel rest).map fun e => ((c, String.ofList cs) :: e.1, e.2)
        else
          match rest with
          | [] => none
          | value :: rest =>
            (options? plain valued fuel rest).map fun e => ((c, value) :: e.1, e.2)
    match word.toList with
    | ['-', '-'] => some ([], rest)
    | '-' :: c :: cs => letters (c :: cs)
    | _ => (options? plain valued fuel rest).map fun e => (e.1, word :: e.2)

/-- Takes the contents of a file, or of the input for a dash. -/
def contents? (word : String) : Run (Option (List Char)) := do
  let st ← get
  if word = "-" then
    set (st.withInput [])
    return if st.hasInput then some st.input else none
  else
    match st.readFile word with
    | .ok (contents, st) =>
      set st
      return some contents
    | .error _ => return none

/-- Takes the contents of files, or of the input if there are none. -/
def sources (words : List String) : Run (List (String × Option (List Char))) :=
  (if words.isEmpty then ["-"] else words).mapM fun word => do return (word, ← contents? word)

/-- The lines of a text, the last of which need not end. -/
def linesOf (cs : List Char) : List (List Char) :=
  let lines := cs.splitOn '\n'
  if lines.getLast? = some [] then lines.dropLast else lines

/-- The text of lines. -/
def textOf (lines : List (List Char)) : String :=
  String.ofList (lines.flatMap fun line => line ++ ['\n'])

/-- What a filter does with the options and the files that its words are. -/
abbrev Action := List (Char × String) → List String → Run Unit

/-- A filter with options. Words that make no sense leave the status `misuse`. -/
def filter (plain valued : String) (misuse : Nat) (act : Action) (words : List String) :
    Run Unit :=
  match options? plain.toList valued.toList (words.length + 1) words with
  | some (options, words) => act options words
  | none => leaveStatus misuse

/-- A filter whose text comes from the texts of files. With `whole` a file that cannot be
read leaves nothing to write. -/
def through (whole : Bool) (change : List (List Char) → String) (words : List String) :
    Run Unit := do
  let sources ← sources words
  let lines := sources.flatMap fun e => linesOf (e.2.getD [])
  if sources.all (·.2.isSome) then say (change lines) 0
  else if whole then leaveStatus 2
  else say (change lines) 1

/-- Whether an option is there. -/
def has (options : List (Char × String)) (c : Char) : Bool := options.any (·.1 == c)

/-- The value of an option, the last one if there are more. -/
def value? (options : List (Char × String)) (c : Char) : Option String := options.reverse.lookup c

/-- Whether a part of a line stands there as a word, with no character of a name at its
sides. -/
def isWord (chars : Array Char) (start stop : Nat) : Bool :=
  let plain (c : Option Char) : Bool := !c.any inName
  plain (if start = 0 then none else chars[start - 1]?) && plain chars[stop]?

/-- The parts of a line that fit, from a place on, none of them empty. -/
def partsOf (admits : Array Char → Nat → Nat → Bool) (e : Expression) (line : Array Char) :
    Nat → Nat → List (List Char)
  | 0, _ => []
  | fuel + 1, place =>
    match e.firstPart? line (admits line) place with
    | some (start, stop) =>
      let rest := partsOf admits e line fuel (max stop (start + 1))
      if stop > start then (line.extract start stop).toList :: rest else rest
    | none => []

/-- Looks for lines that fit expressions. -/
def search (extended plain : Bool) : Action := fun options words => do
  let given := options.filterMap fun e => if e.1 = 'e' then some e.2 else none
  let (patterns, files) := match given, words with
    | [], [] => ([], [])
    | [], pattern :: rest => ([pattern], rest)
    | given, rest => (given, rest)
  let caseless := has options 'i' || has options 'y'
  let style : Expression.Style := ⟨extended || has options 'E', caseless⟩
  let readOne (pattern : String) : Option Expression :=
    if plain || has options 'F' then some (Expression.ofText style pattern.toList)
    else Expression.read? style pattern.toList
  match ((patterns.flatMap fun pattern => pattern.splitOn "\n").mapM readOne) with
  | none => leaveStatus 2
  | some [] => leaveStatus 2
  | some (first :: more) =>
    let e := more.foldl .either first
    let admits (line : Array Char) (start stop : Nat) : Bool :=
      (!has options 'x' || (start = 0 && stop = line.size)) &&
        (!has options 'w' || isWord line start stop)
    let fits (line : List Char) : Bool :=
      (e.firstPart? line.toArray (admits line.toArray) 0).isSome != has options 'v'
    let sources ← sources files
    let named := (files.length > 1 || has options 'H') && !has options 'h'
    let limit := (value? options 'm').bind String.toNat?
    let mut found := false
    let mut text := ""
    for (name, contents) in sources do
      let title := if name = "-" then "(standard input)" else name
      let lead := if named then title ++ ":" else ""
      let numbered := ((linesOf (contents.getD [])).zipIdx 1).filter fun line => fits line.1
      let chosen := match limit with
        | some n => numbered.take n
        | none => numbered
      if !chosen.isEmpty then found := true
      let shown := chosen.flatMap fun (line, n) =>
        let lead := lead ++ if has options 'n' then toString n ++ ":" else ""
        let parts := if !has options 'o' then [line] else if has options 'v' then []
          else partsOf admits e line.toArray (line.length + 1) 0
        parts.map fun part => lead ++ String.ofList part ++ "\n"
      if contents.isSome then
        if has options 'l' then text := text ++ if chosen.isEmpty then "" else title ++ "\n"
        else if has options 'c' then text := text ++ lead ++ toString chosen.length ++ "\n"
        else text := text ++ String.join shown
    let quiet := has options 'q'
    let missing := sources.any (·.2.isNone)
    say (if quiet then "" else text)
      (if missing && !(quiet && found) then 2 else if found then 0 else 1)

/-- The number of words in a text. -/
def wordsIn (cs : List Char) : Nat :=
  ((cs.splitBy fun a b => isSpace a == isSpace b).filter fun run =>
    run.any fun c => !isSpace c).length

/-- Counts lines, words and characters. -/
def count : Action := fun options words => do
  let asked := ['l', 'w', 'm', 'c'].filter (has options)
  let asked := if asked.isEmpty then ['l', 'w', 'c'] else asked
  let one (cs : List Char) : List Nat := asked.map fun c =>
    if c = 'l' then cs.count '\n' else if c = 'w' then wordsIn cs else cs.length
  let st ← get
  let isThere (word : String) : Bool := word = "-" || (st.resolve word).toOption.isSome
  let isPlain (word : String) : Bool := match st.resolve word with
    | .ok (_, .file _ _) | .error _ => word != "-"
    | .ok _ => false
  let sources ← sources words
  let rows := sources.filterMap fun e => match e.2 with
    | some cs => some (e.1, one cs)
    | none => if isThere e.1 then some (e.1, one []) else none
  let sums := rows.foldl (fun sums row => List.zipWith (fun a b => a + b) sums row.2)
    (asked.map fun _ => 0)
  let rows := if words.length > 1 then rows ++ [("total", sums)] else rows
  let width := if asked.length = 1 && words.length ≤ 1 then 1
    else if words.isEmpty then 7
    else
      let least := if words.all isPlain then 1 else 7
      sums.foldl (fun width n => max width (toString n).length) least
  let cell (n : Nat) : String :=
    String.ofList (List.replicate (width - (toString n).length) ' ') ++ toString n
  let line (row : String × List Nat) : String :=
    " ".intercalate (row.2.map cell) ++ (if words.isEmpty then "" else " " ++ row.1) ++ "\n"
  say (String.join (rows.map line)) (if sources.all (·.2.isSome) then 0 else 1)

/-- The number of lines or characters that an option asks for: whether it counts them in
another way, by its sign, and how many there are. -/
def amount? (sign : Char) (text : String) : Option (Bool × Nat) :=
  match text.toList with
  | c :: cs =>
    let marked := c = sign
    let digits := if c = '-' || c = '+' then cs else c :: cs
    if digits.isEmpty || !digits.all Char.isDigit then none
    else some (marked, digitsValue 10 digits)
  | [] => none

/-- Words in which a number after a dash is the value of an option. -/
def withCount (words : List String) : List String :=
  match words with
  | word :: rest =>
    match word.toList with
    | '-' :: c :: cs =>
      if (c :: cs).all Char.isDigit then "-n" :: String.ofList (c :: cs) :: rest else words
    | _ => words
  | [] => []

/-- Shows the first or the last lines, or characters. -/
def edge (atEnd : Bool) : Action := fun options words => do
  let sources ← sources words
  let characters := has options 'c'
  let asked := (value? options (if characters then 'c' else 'n')).getD "10"
  match amount? (if atEnd then '+' else '-') asked with
  | none => leaveStatus 1
  | some (marked, n) =>
    let cut {α : Type} (items : List α) : List α :=
      match atEnd, marked with
      | false, false => items.take n
      | false, true => items.take (items.length - n)
      | true, false => items.drop (items.length - n)
      | true, true => items.drop (n - 1)
    let one (cs : List Char) : String :=
      if characters then String.ofList (cut cs)
      else
        let whole := cs.splitOn '\n'
        let open? := whole.getLast? != some []
        let lines := cut (linesOf cs)
        let isLast := lines.length = 0 || lines.getLast? != (linesOf cs).getLast?
        if open? && !isLast then String.ofList (textOf lines).toList.dropLast else textOf lines
    say (String.join (sources.map fun e => one (e.2.getD [])))
      (if sources.all (·.2.isSome) then 0 else 1)

/-- The number that a line starts with, which is zero if it starts with none. -/
def leadingNumber (line : List Char) : Int :=
  ((integerAhead? (fun cs => (10, cs)) line).map (·.1)).getD 0

/-- Sorts lines. -/
def sort : Action := fun options words =>
  through true (fun lines =>
    let text (line : List Char) : String := String.ofList line
    let le (a b : List Char) : Bool :=
      if has options 'n' && leadingNumber a != leadingNumber b then
        leadingNumber a ≤ leadingNumber b
      else text a ≤ text b
    let sorted := lines.mergeSort le
    let same (a b : List Char) : Bool :=
      if has options 'n' then leadingNumber a == leadingNumber b else a == b
    let kept := if has options 'u' then
      (sorted.splitBy same).filterMap List.head? else sorted
    textOf (if has options 'r' then kept.reverse else kept)) words

/-- Shows lines that follow each other and are alike only once. -/
def unique : Action := fun options words =>
  through false (fun lines =>
    let runs := (lines.splitBy fun a b => a == b).filter fun run =>
      (!has options 'd' || run.length > 1) && (!has options 'u' || run.length = 1)
    let lead (n : Nat) : List Char :=
      List.replicate (7 - (toString n).length) ' ' ++ (toString n).toList ++ [' ']
    textOf (runs.filterMap fun run => run.head?.map fun line =>
      if has options 'c' then lead run.length ++ line else line)) (words.take 1)

/-- The ranges of a list of numbers, from 1 on. -/
def ranges? (text : String) : Option (List (Nat × Option Nat)) :=
  (text.splitOn ",").mapM fun part =>
    match part.splitOn "-" with
    | [n] => do
      let n ← n.toNat?
      if n = 0 then none else some (n, some n)
    | ["", n] => do some (1, some (← n.toNat?))
    | [n, ""] => do some (← n.toNat?, none)
    | [n, m] => do some (← n.toNat?, some (← m.toNat?))
    | _ => none

/-- Shows parts of lines. -/
def cut : Action := fun options words => do
  let fields := value? options 'f'
  match (fields.orElse fun _ => (value? options 'c').orElse fun _ => value? options 'b').bind
    ranges? with
  | none => leaveStatus 1
  | some ranges =>
    let isIn (n : Nat) : Bool := ranges.any fun r => r.1 ≤ n && r.2.all (n ≤ ·)
    let pick {α : Type} (items : List α) : List α :=
      ((items.zipIdx 1).filter fun e => isIn e.2).map (·.1)
    let mark := ((value? options 'd').bind (·.toList.head?)).getD '\t'
    through false (fun lines => textOf (lines.filterMap fun line =>
      if fields.isNone then some (pick line)
      else if line.elem mark then some ([mark].intercalate (pick (line.splitOn mark)))
      else if has options 's' then none
      else some line)) words

/-- The characters that a word of `tr` stands for. -/
def characters : Nat → List Char → List Char
  | 0, _ => []
  | fuel + 1, cs =>
    match cs with
    | '[' :: ':' :: rest =>
      let name := rest.takeWhile Char.isAlpha
      match Pattern.classRanges.lookup (String.ofList name), rest.drop name.length with
      | some ranges, ':' :: ']' :: rest =>
        let members := (List.range 256).map Char.ofNat |>.filter fun c =>
          ranges.any fun r => r.1 ≤ c && c ≤ r.2
        members ++ characters fuel rest
      | _, _ => '[' :: characters fuel (':' :: rest)
    | '\\' :: rest =>
      let (text, _) := Format.unescape false 0 ('\\' :: rest.take 3)
      let used := if (rest.take 1).all (isDigitIn 8) then
        ((rest.take 3).takeWhile (isDigitIn 8)).length else 1
      text.take 1 ++ characters fuel (rest.drop used)
    | c :: '-' :: d :: rest =>
      (List.range (d.toNat + 1 - c.toNat)).map (fun i => Char.ofNat (c.toNat + i)) ++
        characters fuel rest
    | c :: rest => c :: characters fuel rest
    | [] => []

/-- A text in which characters that follow each other and are alike stand only once. -/
def squeeze (set : Char → Bool) (cs : List Char) : List Char :=
  (cs.splitBy fun a b => a == b && set a).flatMap fun run =>
    if run.head?.any set then run.take 1 else run

/-- Takes other characters for those of the input, or leaves them out. -/
def translate : Action := fun options words => do
  let sets := words.map fun word => characters (word.length + 1) word.toList
  let st ← get
  let other := has options 'c' || has options 'C'
  match sets with
  | [] => leaveStatus 1
  | members :: others =>
    let isIn (c : Char) : Bool := members.elem c != other
    let target := others.headD []
    let squeezed := has options 's'
    let deleted := has options 'd'
    let tooFew := !deleted && !squeezed && others.isEmpty
    let tooMany := others.length > 1 || (deleted && !squeezed && !others.isEmpty)
    if tooFew || tooMany then leaveStatus 1
    else
      let swap (c : Char) : Char :=
        if deleted || others.isEmpty || !isIn c then c
        else
          let last := target.getLast?.getD c
          if other then last else target.getD (members.length - 1 - members.reverse.idxOf c) last
      let kept := if deleted then st.input.filter (!isIn ·) else st.input
      let text := kept.map swap
      let text := if !squeezed then text
        else if others.isEmpty then squeeze isIn text else squeeze target.elem text
      set (st.withInput [])
      say (String.ofList text) (if st.hasInput then 0 else 1)

/-- Shows values of the environment. -/
def environment : Action := fun _ words => do
  let entries := (← get).environment
  if words.isEmpty then say (String.join (entries.map fun e => e.1 ++ "=" ++ e.2 ++ "\n")) 0
  else
    let found := words.map fun name => entries.lookup name
    say (String.join (found.filterMap fun value => value.map (· ++ "\n")))
      (if found.all Option.isSome then 0 else 1)

/-- Shows numbers from the first to the last, by steps. -/
def showSeries (first step last : Int) : Run Unit :=
  let count := if step > 0 then (last - first) / step + 1 else (first - last) / (-step) + 1
  let line (i : Nat) : String := toString (first + step * (i : Int)) ++ "\n"
  say (String.join ((List.range count.toNat).map line)) 0

/-- Counts from one number to another. -/
def series (words : List String) : Run Unit := do
  match words.map integer? with
  | [some last] => showSeries 1 1 last
  | [some first, some last] => showSeries first 1 last
  | [some first, some step, some last] =>
    if step = 0 then leaveStatus 1 else showSeries first step last
  | _ => leaveStatus 1

/-- The last name in a path, without an ending. -/
def lastName (words : List String) : Run Unit := do
  match words with
  | [] => leaveStatus 1
  | path :: rest =>
    let cs := (path.toList.reverse.dropWhile (· == '/'))
    let name := (cs.takeWhile (· != '/')).reverse
    let name := if name.isEmpty && path != "" then ['/'] else name
    let ending := (rest.headD "").toList
    let name := if name != ending && ending.isSuffixOf name then
      name.take (name.length - ending.length) else name
    if rest.length > 1 then leaveStatus 1 else say (String.ofList name ++ "\n") 0

/-- A path without the last name in it. -/
def withoutLast (words : List String) : Run Unit := do
  let one (path : String) : String :=
    let cs := path.toList.reverse.dropWhile (· == '/')
    let cs := (cs.dropWhile (· != '/')).dropWhile (· == '/')
    if !cs.isEmpty then String.ofList cs.reverse
    else if path.startsWith "/" then "/" else "."
  if words.isEmpty then leaveStatus 1
  else say (String.join (words.map fun path => one path ++ "\n")) 0

/-- Copies the input to the output and to files. -/
def copyTo : Action := fun _ words => do
  let st ← get
  set (st.withInput [])
  let text := String.ofList st.input
  say text (if st.hasInput then 0 else 1)
  words.forM fun word => tryCatch
    (do
      openStream 9 .write word
      discard (write 9 text))
    fun _ => leaveStatus 1

/-- Works out a sum, a comparison or a match of words. -/
def reckon (words : List String) : Run Unit := do
  let words := if words.head? = some "--" then words.tail else words
  match Reckoning.value? words with
  | some value => say (value ++ "\n") (if Reckoning.isNothing value then 1 else 0)
  | none => leaveStatus 2

/-- Shows the directory in which a program runs. -/
def showDirectory (words : List String) : Run Unit := do
  let isWrong (word : String) : Bool :=
    match word.toList with
    | '-' :: c :: cs => !(c :: cs).all ['L', 'P', '-'].elem
    | _ => false
  if isHelp "pwd" words then say "Usage\n" 0
  else if words.any isWrong then leaveStatus 1
  else say ((← get).directory ++ "\n") 0

end Filter

/-- The programs that are filters, by their names. -/
def filters : List (String × (List String → Run Unit)) := [
  ("grep", Filter.filter "EFGchilnoqsvwxyH" "em" 2 (Filter.search false false)),
  ("egrep", Filter.filter "EFGchilnoqsvwxyH" "em" 2 (Filter.search true false)),
  ("fgrep", Filter.filter "EFGchilnoqsvwxyH" "em" 2 (Filter.search false true)),
  ("wc", Filter.filter "lwcm" "" 1 Filter.count),
  ("head", fun words => Filter.filter "q" "nc" 1 (Filter.edge false) (Filter.withCount words)),
  ("tail", fun words => Filter.filter "q" "nc" 1 (Filter.edge true) (Filter.withCount words)),
  ("sort", Filter.filter "nru" "" 2 Filter.sort),
  ("uniq", Filter.filter "cdu" "" 1 Filter.unique),
  ("cut", Filter.filter "s" "dfcb" 1 Filter.cut),
  ("tr", Filter.filter "cCds" "" 1 Filter.translate),
  ("printenv", Filter.filter "" "" 2 Filter.environment),
  ("seq", Filter.series), ("basename", Filter.lastName), ("dirname", Filter.withoutLast),
  ("cat", Filter.filter "AbeEnstTuv" "" 1 fun _ words => copyFiles words), ("sleep", sleep),
  ("pwd", Filter.showDirectory),
  ("expr", Filter.reckon), ("tee", Filter.filter "ai" "" 1 Filter.copyTo)]

end SubordinateIds.Shell
