import SubordinateIds.Path.Basic

/-
  Valid paths — absolute, bounded and without a way upwards

  A path is used only if it has 1 to 4095 octets, starts at the root, never
  climbs to a parent directory and has no component of more than 255 octets.

  Correspondence (program ↔ model):
    `validate_path`                ↔ `check`
    `ValidationError`, as to paths ↔ `Fault`
    `MAX_PATH_LENGTH`              ↔ `lengthLimit`
    `MAX_PATH_COMPONENT_LENGTH`    ↔ `componentLimit`
-/

namespace SubordinateIds.Path

/-- Why a path is not used. -/
inductive Fault where
  | empty
  | tooLong (length : Nat)
  | relative (path : Path)
  | climbs (path : Path)
  | longComponent
  deriving DecidableEq, Repr

/-- Paths must be shorter than this many octets. -/
def lengthLimit : Nat := 4096

/-- Components may be as long as this many octets. -/
def componentLimit : Nat := 255

/-- The wording of a fault. -/
def Fault.message : Fault → String
  | .empty => "path must not be empty"
  | .tooLong length => s!"path exceeds length limit ({length} >= {lengthLimit})"
  | .relative path => s!"path must be absolute: {path.display}"
  | .climbs path => s!"path contains parent traversal: {path.display}"
  | .longComponent => "path contains an overlong component"

/-- Whether the octets hold a double dot between slashes, or one after the
last slash. -/
def climbs (p : Path) : Bool :=
  Octets.hasRun [slash, dot, dot, slash] p.octets || [slash, dot, dot].isSuffixOf p.octets

/-- What is wrong with one component. -/
def componentFault? (p : Path) : Component → Option Fault
  | .parent => some (.climbs p)
  | .name octets => if octets.length > componentLimit then some .longComponent else none
  | .root | .here => none

/-- Accepts valid paths; otherwise gives the first fault. -/
def check (p : Path) : Except Fault Unit :=
  if p.octets = [] then .error .empty
  else if p.octets.length ≥ lengthLimit then .error (.tooLong p.octets.length)
  else if !p.isAbsolute then .error (.relative p)
  else if p.climbs then .error (.climbs p)
  else
    match p.components.findSome? (componentFault? p) with
    | some fault => .error fault
    | none => .ok ()

end SubordinateIds.Path
