import SubordinateIds.Machine.Basic

/-
  File trees — files, directories and links, and how a path finds its way

  A tree holds nodes at locations; a location is the names from the root to the
  node, the last one first. A path is walked segment by segment. Every segment,
  an empty one at the end included, asks for a directory to stand in. A link is
  replaced by its target, forty times at most; a target that does not start at the
  root starts where the link is. A double dot leads to the parent of the place
  reached, not of the path written.

  The caller owns every node and has no privilege beyond that: the owner's bits of
  a mode tell what may be read, and which directories may be searched. Asking for
  the status of a node needs no bit of the node itself.

  Correspondence (program ↔ model):
    `OsSystemOps::open_read` ↔ `openFile`
    `OsSystemOps::stat`      ↔ `status`
    `OsSystemOps::read_dir`  ↔ `list`

  These three hand the path on to the system. What is modelled here is the answer of the system,
  as far as links, modes and the kinds of nodes decide it.
-/

namespace SubordinateIds

/-- What a file tree has at a location. -/
inductive FileTree.Node where
  | file (mode : UInt32) (contents : Octets)
  | directory (mode : UInt32)
  | fifo (mode : UInt32)
  | socket (mode : UInt32)
  | device (mode : UInt32)
  | link (target : Path)
  deriving DecidableEq, Repr

/-- Nodes by their locations, the latest first. -/
structure FileTree where
  nodes : List (List Octets × FileTree.Node)

namespace FileTree

/-- The names of an ASCII path from the root, the last one first. -/
def location (names : List (List Char)) : List Octets := (names.map Octets.ofChars).reverse

/-- The directory in which paths start that do not start at the root. -/
def workplace : List Octets := location [['w', 'o', 'r', 'k']]

/-- Where the programs are. -/
def programsPlace : List Octets := location [['u', 's', 'r'], ['b', 'i', 'n']]

/-- The octets that every program starts with. -/
def programMark : Octets := 0x7f :: Octets.ofChars ['E', 'L', 'F']

/-- The names of the programs. -/
def programNames : List String := [
  "sh", "[", "basename", "cat", "cut", "dirname", "echo", "egrep", "env", "expr", "false", "fgrep",
  "grep", "head", "kill", "printenv", "printf", "pwd", "seq", "sleep", "sort", "tail", "tee",
  "test", "tr", "true", "uniq", "wc"]

/-- The directory in which a program finds its own streams. -/
def streamsPlace : List Octets := location [['p', 'r', 'o', 'c'], ['s', 'e', 'l', 'f'], ['f', 'd']]

/-- The directory of the devices. -/
def devicesPlace : List Octets := location [['d', 'e', 'v']]

/-- The names of the devices that anyone may use. -/
def deviceNames : List String := ["full", "null", "ptmx", "random", "tty", "urandom", "zero"]

/-- The links among the devices, with their targets. -/
def deviceLinks : List (String × String) := [
  ("fd", "/proc/self/fd"), ("stderr", "/proc/self/fd/2"), ("stdin", "/proc/self/fd/0"),
  ("stdout", "/proc/self/fd/1")]

/-- The tree of a system in which nothing was made yet. -/
def fresh : FileTree where
  nodes := [
    ([], .directory 0o755),
    (workplace, .directory 0o755),
    (programsPlace.tail, .directory 0o755),
    (programsPlace, .directory 0o755),
    (location [['b', 'i', 'n']], .link ⟨Octets.ofChars ['u', 's', 'r', '/', 'b', 'i', 'n']⟩),
    (location [['e', 't', 'c']], .directory 0o755),
    (location [['t', 'm', 'p']], .directory 0o1777),
    (streamsPlace.tail.tail, .directory 0o555),
    (streamsPlace.tail, .directory 0o555),
    (streamsPlace, .directory 0o500),
    (devicesPlace, .directory 0o755),
    (Octets.ofChars ['p', 't', 's'] :: devicesPlace, .directory 0o755),
    (Octets.ofChars ['s', 'h', 'm'] :: devicesPlace, .directory 0o1777)] ++
    deviceNames.map (fun name => (Octets.ofChars name.toList :: devicesPlace, .device 0o666)) ++
    deviceLinks.map (fun e =>
      (Octets.ofChars e.1.toList :: devicesPlace, .link ⟨Octets.ofChars e.2.toList⟩)) ++
    programNames.map fun name =>
      (Octets.ofChars name.toList :: programsPlace, .file 0o755 programMark)

/-- The tree with another node at a location. -/
def insert (t : FileTree) (place : List Octets) (node : Node) : FileTree :=
  { nodes := (place, node) :: t.nodes }

/-- What is at a location. -/
def node? (t : FileTree) (place : List Octets) : Option Node := t.nodes.lookup place

/-- How many links may be followed on one way. -/
def linkLimit : Nat := 40

/-- Whether the owner may read a node with this mode. -/
def isReadable (mode : UInt32) : Bool := mode &&& 0o400 != 0

/-- Whether the owner may look for names in a directory with this mode. -/
def isSearchable (mode : UInt32) : Bool := mode &&& 0o100 != 0

/-- The location where the segments of a path lead to, from `place` on. `admits`
tells from its mode whether a directory may be searched, and `links` is the number
of links that may still be followed. An empty segment looks for no name, so it
needs a directory but no right to search it. -/
def walk (t : FileTree) (admits : UInt32 → Bool) (links : Nat) (place : List Octets)
    (segments : List Octets) : Except SystemError (List Octets) :=
  match segments with
  | [] => .ok place
  | segment :: rest =>
    match t.node? place with
    | some (.directory mode) =>
      if segment = [] then walk t admits links place rest
      else if !admits mode then .error .permissionDenied
      else if segment = [Path.dot] then walk t admits links place rest
      else if segment = [Path.dot, Path.dot] then walk t admits links place.tail rest
      else if segment.length > 255 then .error .invalidFilename
      else
        match t.node? (segment :: place) with
        | none => .error .notFound
        | some (.link target) =>
          match links with
          | 0 => .error .filesystemLoop
          | links + 1 =>
            walk t admits links (if target.isAbsolute then [] else place) (target.segments ++ rest)
        | some _ => walk t admits links (segment :: place) rest
    | _ => .error .notADirectory
termination_by (links, segments.length)

/-- Where a path starts that is taken in the directory at a location. -/
def origin (place : List Octets) (p : Path) : List Octets := if p.isAbsolute then [] else place

/-- The location that a path leads to. -/
def find (t : FileTree) (p : Path) : Except SystemError (List Octets) :=
  if p.octets.contains 0 then .error .invalidInput
  else if p.octets.length ≥ 4096 then .error .invalidFilename
  else t.walk isSearchable linkLimit (origin workplace p) p.segments

/-- The location and the node that a path leads to. -/
def resolve (t : FileTree) (p : Path) : Except SystemError (List Octets × Node) := do
  let place ← t.find p
  match t.node? place with
  | some node => .ok (place, node)
  | none => .error .notFound

/-- The location that a path, taken in the directory at `start`, leads to if a link at
its end is not followed. Slashes at the end do not count. -/
def findLastFrom (t : FileTree) (admits : UInt32 → Bool) (start : List Octets) (p : Path) :
    Except SystemError (List Octets) :=
  match p.segments.reverse.dropWhile (· == []) with
  | [] => .ok []
  | name :: before => do
    let place ← t.walk admits linkLimit (origin start p) before.reverse
    .ok (name :: place)

/-- The location that a path leads to if a link at its end is not followed. -/
def findLast (t : FileTree) (admits : UInt32 → Bool) (p : Path) :
    Except SystemError (List Octets) :=
  t.findLastFrom admits workplace p

/-- The location at which a file with a path is found or would be made. Links at the
end of the path are followed, `links` of them at most. -/
def findFile (t : FileTree) (admits : UInt32 → Bool) :
    Nat → List Octets → Path → Except SystemError (List Octets)
  | 0, _, _ => .error .filesystemLoop
  | links + 1, start, p => do
    let place ← t.findLastFrom admits start p
    match t.node? place with
    | some (.link target) => t.findFile admits links place.tail target
    | _ => .ok place

/-- Whether a path leads to a link. -/
def isLink (t : FileTree) (p : Path) : Bool :=
  match t.findLast isSearchable p with
  | .ok place =>
    match t.node? place with
    | some (.link _) => true
    | _ => false
  | .error _ => false

/-- The tree with a node where a path leads to, if there is a directory to hold
it. A file is made where links lead to, anything else in their place. Modes do not
stand in the way of who makes a tree. -/
def make (t : FileTree) (p : Path) (node : Node) : FileTree :=
  let found := match node with
    | .file _ _ => t.findFile (fun _ => true) (linkLimit + 1) workplace p
    | _ => t.findLast (fun _ => true) p
  match found with
  | .ok place => t.insert place node
  | .error _ => t

/-- The tree of a system in which nodes were made one after the other. -/
def ofList (nodes : List (Path × Node)) : FileTree :=
  nodes.foldl (fun t e => t.make e.1 e.2) fresh

/-- The status of a node. Its owner is shown as the superuser. -/
def Node.status : Node → FileStatus
  | .file mode _ => .of .regular 0 mode
  | .directory mode => .of .directory 0 mode
  | .fifo mode => .of .fifo 0 mode
  | .socket mode => .of .socket 0 mode
  | .device mode => .of .charDevice 0 mode
  | .link _ => .of .symlink 0 0o777

/-- The status of what a path leads to. -/
def status (t : FileTree) (p : Path) : Except SystemError FileStatus := do
  return (← t.resolve p).2.status

/-- The mode of a node. -/
def Node.mode (node : Node) : UInt32 := node.status.mode

/-- Refuses a node that the caller may not read. -/
def Node.checkReadable (node : Node) : Except SystemError Unit :=
  if isReadable node.mode then .ok () else .error .permissionDenied

/-- Opens what a path leads to, without waiting for anyone at the other end. -/
def openFile (t : FileTree) (p : Path) : Except SystemError OpenFile := do
  let node := (← t.resolve p).2
  node.checkReadable
  match node with
  | .file _ contents => return ⟨.ok node.status, contents, none⟩
  | .directory _ => return ⟨.ok node.status, [], some (0, .isADirectory)⟩
  | .socket _ => throw .uncategorized
  | .fifo _ | .device _ | .link _ => return ⟨.ok node.status, [], none⟩

/-- The name of a node in the directory at a location, if it is in there. -/
def nameIn? (place : List Octets) : List Octets × Node → Option Octets
  | (name :: parent, _) => if parent = place then some name else none
  | ([], _) => none

/-- The names in the directory that a path leads to, in the order of their
octets. -/
def list (t : FileTree) (p : Path) : Except SystemError (List Octets) := do
  let (place, node) ← t.resolve p
  match node with
  | .directory _ =>
    node.checkReadable
    return (t.nodes.filterMap (nameIn? place)).eraseDups.mergeSort Octets.le
  | _ => throw .notADirectory

end FileTree

/-- A system on which the superuser alone has an account, and the caller no
environment. -/
def Machine.bare : Machine := { Machine.empty with accounts := [⟨"root", 0⟩] }

end SubordinateIds
