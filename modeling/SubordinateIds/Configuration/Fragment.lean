import SubordinateIds.Octets

/-
  Fragments — which entries of the drop-in directory are configuration

  A fragment's name does not start with a dot, holds no slash and ends in
  `.conf` with something before it. A name that could lead out of the directory
  is a hazard, whatever else it is.

  Correspondence (program ↔ model):
    `is_config_fragment_name` ↔ `isName`
    `fragment_name_hazard`    ↔ `hazard?`
    `CONFIG_FRAGMENT_SUFFIX`  ↔ `ending`
-/

namespace SubordinateIds.Fragment

/-- The end of a fragment's name. -/
def ending : Octets := Octets.ofChars ['.', 'c', 'o', 'n', 'f']

/-- The octet between the segments of a path. -/
def separator : UInt8 := Octets.ofChar '/'

/-- The octet that hides a file. -/
def dot : UInt8 := Octets.ofChar '.'

/-- Whether an entry with this name is a fragment. -/
def isName (name : Octets) : Bool :=
  name.head? != some dot && !name.contains separator && name.length > ending.length &&
    ending.isSuffixOf name

/-- What makes a name unfit to be joined to a directory. -/
def hazard? (name : Octets) : Option String :=
  if name.contains separator then some "path separator"
  else if [dot, dot].isPrefixOf name then some "path traversal"
  else none

end SubordinateIds.Fragment
