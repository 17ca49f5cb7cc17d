import SubordinateIds.Shell.Files

/-
  Streams — where the input and the output of commands lead to

  A file that is read is a text from then on, and so is one that is written, but that
  stays in its file. A file that cannot be opened makes the redirection fail.
-/

namespace SubordinateIds.Shell

/-- The text of octets, a character for each. -/
def octetText (octets : Octets) : String :=
  String.ofList (octets.map fun b => Char.ofNat b.toNat)

/-- The location of a device. -/
def devicePlace (name : String) : List Octets :=
  Octets.ofChars name.toList :: FileTree.devicesPlace

namespace Direction

/-- Whether a stream of this direction can be read. -/
def reads (direction : Direction) : Bool := direction = .read || direction = .both

/-- Whether a stream of this direction can be written. -/
def writes (direction : Direction) : Bool := direction ≠ .read

/-- Where a stream of this direction leads that has nothing at its end. -/
def nothing (direction : Direction) : Channel := .nothing direction.reads direction.writes

end Direction

/-- Takes a stream to a new text that is written to the file at a location. -/
def writeAt (stream : Nat) (place : List Octets) (contents : List Char) : Run Unit :=
  modify fun st =>
    let text := st.texts.length
    { st with homes := (text, place) :: st.homes }.withNewText stream .writing contents
      |>.withHome text

/-- Takes a stream to a file that is there. -/
def openFound (stream : Nat) (direction : Direction) (place : List Octets) :
    FileTree.Node → Run Unit
  | .directory _ =>
    if direction = .read then modify (·.withChannel stream (.directory place)) else fault
  | .file _ contents => do
    let cs := (octetText contents).toList
    if direction = .write && (← get).has 'C' then fault
    match direction with
    | .write | .replace => writeAt stream place []
    | .append => writeAt stream place cs
    | _ => modify (·.withNewText stream .reading cs)
  | .device _ =>
    if place = devicePlace "tty" then fault
    else modify (·.withChannel stream
      (if place = devicePlace "full" then .full else direction.nothing))
  | .socket _ => fault
  | .fifo _ | .link _ => modify (·.withChannel stream direction.nothing)

/-- Takes a stream to a file. -/
def openStream (stream : Nat) (direction : Direction) (target : String) : Run Unit := do
  let st ← get
  match st.resolve target with
  | .ok (place, node) =>
    if direction.reads && node.mode &&& 0o400 = 0 then fault
    if direction.writes && node.mode &&& 0o200 = 0 then fault
    match st.channelAt? place with
    | some channel => set (st.withChannel stream channel)
    | none => openFound stream direction place node
  | .error .notFound =>
    if direction = .read || target.toList.getLast?.all (· == '/') then fault
    match st.files.findFile FileTree.isSearchable FileTree.linkLimit FileTree.workplace
      (st.path target) with
    | .ok (name :: parent) =>
      match st.tree.node? parent with
      | some (.directory mode) =>
        if mode &&& 0o300 != 0o300 then fault
        writeAt stream (name :: parent) []
      | _ => fault
    | _ => fault
  | .error _ => fault

/-- Whether a text names a stream, or none. -/
def isStreamName (text : String) : Bool :=
  match text.toList with
  | [c] => c.isDigit || c = '-'
  | _ => false

/-- Takes a stream where another one leads, or closes it. -/
def copyStream (stream : Nat) (target : String) : Run Unit := do
  let st ← get
  if target = "-" then set (st.withChannel stream .closed)
  else
    let channel := st.channel (digitsValue 10 target.toList)
    if channel = .closed then fault
    set (st.withChannel stream channel)

/-- The state after redirections, with the streams as they were before. -/
def restoreStreams (before after : State) : State := { after with streams := before.streams }

end SubordinateIds.Shell
