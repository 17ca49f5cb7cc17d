import SubordinateIds.Text.Utf8

/-
  Paths — octets, and the components they stand for

  A path keeps the octets it was spelled with. Two spellings of one place have
  the same components: empty segments and dots in the middle do not count, a
  leading dot of a relative path and every double dot do.
-/

namespace SubordinateIds

/-- A path as it is spelled. -/
structure Path where
  octets : Octets
  deriving DecidableEq, Repr

/-- What one segment of a path stands for. -/
inductive Path.Component where
  | root
  | here
  | parent
  | name (octets : Octets)
  deriving DecidableEq, Repr

namespace Path

/-- The octet between segments. -/
def slash : UInt8 := Octets.ofChar '/'

/-- The octet that makes up the segments with a meaning of their own. -/
def dot : UInt8 := Octets.ofChar '.'

/-- The path that a text spells. -/
def ofString (text : String) : Path := ⟨Utf8.encode text.toList⟩

/-- The path as it is shown in messages. -/
def display (p : Path) : String := Utf8.lossy p.octets

/-- The octets between slashes. -/
def segments (p : Path) : List Octets := Octets.splitOn slash p.octets

/-- Whether the path starts at the root. -/
def isAbsolute (p : Path) : Bool := p.octets.head? == some slash

/-- What a segment in the middle of a path stands for, if it counts. -/
def Component.ofSegment? (segment : Octets) : Option Component :=
  if segment = [] || segment = [dot] then none
  else if segment = [dot, dot] then some .parent
  else some (.name segment)

/-- The components of the path, in order. -/
def components (p : Path) : List Component :=
  if p.isAbsolute then .root :: p.segments.filterMap Component.ofSegment?
  else
    match p.segments with
    | [] => []
    | first :: rest =>
      if first = [dot] then .here :: rest.filterMap Component.ofSegment?
      else (first :: rest).filterMap Component.ofSegment?

/-- The name at the end of the path, if it ends in one. -/
def fileName? (p : Path) : Option Octets :=
  match p.components.getLast? with
  | some (.name octets) => some octets
  | _ => none

/-- The path of an entry of the directory `p`. -/
def child (p : Path) (entry : Octets) : Path :=
  if p.octets = [] || p.octets.getLast? = some slash then ⟨p.octets ++ entry⟩
  else ⟨p.octets ++ slash :: entry⟩

end Path

end SubordinateIds
