import SubordinateIds.Shell.Arguments
import SubordinateIds.Shell.Files

/-
  Directories — where a shell is, and the rights of the files that it makes

  The directory of a shell is a path without dots: a double dot takes a name off it,
  whatever the name leads to, unless the way is asked for that the files take.
-/

namespace SubordinateIds.Shell

namespace Builtin

/-- A path without double slashes, dots and double dots. Just two slashes at its start
stay. -/
def tidyPath (text : String) : String :=
  let segments := (text.splitOn "/").foldl (fun (segments : List String) segment =>
    if segment = "" || segment = "." then segments
    else if segment = ".." then segments.tail
    else segment :: segments) []
  let root := if text.startsWith "//" && !text.startsWith "///" then "//" else "/"
  root ++ "/".intercalate segments.reverse

/-- The path of a location. -/
def pathOf (place : List Octets) : String :=
  "/" ++ "/".intercalate (place.reverse.map fun name =>
    String.ofList (name.map fun b => Char.ofNat b.toNat))

/-- The path that a word for a directory stands for, and whether it was found by the way
of `CDPATH`. Words that say where they start are not looked for. -/
def searched (st : State) (word : String) : String × Bool :=
  let first := (word.splitOn "/").headD ""
  let parts := ((st.binding? "CDPATH").bind (·.value)).map (·.splitOn ":")
  if ["", ".", ".."].elem first then (word, false)
  else
    let paths := (parts.getD []).map fun part =>
      (if part = "" then word else part ++ "/" ++ word, part != "")
    let isDirectory (path : String) : Bool :=
      match st.resolve path with
      | .ok (_, .directory _) => true
      | _ => false
    (paths.find? fun e => isDirectory e.1).getD (word, false)

/-- Goes to another directory. -/
def changeDirectory (words : List String) : Run Unit := do
  let (letters, words) ← options ['L', 'P'] words
  let st ← get
  let word := match words with
    | [] => st.valueOf "HOME"
    | "-" :: _ => st.valueOf "OLDPWD"
    | word :: _ => word
  let (target, isFound) := searched st word
  let start := if st.directory.endsWith "/" then st.directory else st.directory ++ "/"
  let full := tidyPath (if target.startsWith "/" then target else start ++ target)
  match st.resolve full with
  | .ok (place, .directory mode) =>
    if !FileTree.isSearchable mode then fault
    let old := st.directory
    let full := if letters.getLast? = some 'P' then pathOf place else full
    set { st with directory := full }
    assign "OLDPWD" old
    assign "PWD" full
    if words.head? = some "-" || isFound then say (full ++ "\n") 0 else leaveStatus 0
  | _ => fault

/-- Shows the directory at hand. -/
def showDirectory (words : List String) : Run Unit := do
  let (letters, _) ← options ['L', 'P'] words
  let st ← get
  match letters.getLast?, st.resolve st.directory with
  | some 'P', .ok (place, _) => say (pathOf place ++ "\n") 0
  | _, _ => say (st.directory ++ "\n") 0

/-- The bits that new files do not get, after a change that is written by letters: whose
rights, whether they are given, taken or set, and which ones. -/
def maskBy? (mask : Nat) (text : List Char) : Option Nat :=
  let who := text.takeWhile fun c => ['u', 'g', 'o', 'a'].elem c
  let shifts := if who.isEmpty || who.elem 'a' then [6, 3, 0]
    else who.map fun c => if c = 'u' then 6 else if c = 'g' then 3 else 0
  match text.drop who.length with
  | sign :: letters =>
    if !(['+', '-', '='].elem sign) || !letters.all ['r', 'w', 'x'].elem then none
    else
      let bit (c : Char) : Nat := if c = 'r' then 4 else if c = 'w' then 2 else 1
      let rights := (letters.map bit).foldl (fun bits bit => bits ||| bit) 0
      let allowed := 0o777 ^^^ mask
      let change (allowed shift : Nat) : Nat :=
        let here := rights <<< shift
        match sign with
        | '+' => allowed ||| here
        | '-' => allowed &&& (0o777 ^^^ here)
        | _ => (allowed &&& (0o777 ^^^ (7 <<< shift))) ||| here
      some (0o777 ^^^ shifts.foldl change allowed)
  | [] => none

/-- The rights that a mask leaves, by letters. -/
def maskLetters (mask : Nat) : String :=
  let rights (shift : Nat) : String :=
    let bits := (0o777 ^^^ mask) >>> shift
    (if bits &&& 4 != 0 then "r" else "") ++ (if bits &&& 2 != 0 then "w" else "") ++
      (if bits &&& 1 != 0 then "x" else "")
  "u=" ++ rights 6 ++ ",g=" ++ rights 3 ++ ",o=" ++ rights 0

/-- Shows or takes the bits that new files do not get. -/
def mask (words : List String) : Run Unit := do
  let (letters, words) ← options ['S'] words
  let st ← get
  match words with
  | [] =>
    let digits := Nat.toDigits 8 st.mask
    let octal := String.ofList (List.replicate (4 - digits.length) '0' ++ digits)
    say ((if letters.isEmpty then octal else maskLetters st.mask) ++ "\n") 0
  | word :: _ =>
    if word.toList.head?.any Char.isDigit then
      if !word.toList.all (isDigitIn 8) then fault
      set { st with mask := digitsValue 8 word.toList &&& 0o777, status := 0 }
    else if word = "" then leaveStatus 0
    else
      let changes := word.splitOn ","
      match changes.foldlM (fun mask change => maskBy? mask change.toList) st.mask with
      | some mask => set { st with mask, status := 0 }
      | none => fault

end Builtin

end SubordinateIds.Shell
