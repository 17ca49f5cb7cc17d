import SubordinateIds.Text.Quoted

/-
  Login names — the names that may be handed to the account tools

  A name has 1 to 255 octets. It starts with a lower-case ASCII letter or an
  underscore, goes on with lower-case letters, digits, dots, underscores and
  hyphens, may end in one dollar sign and does not end in a hyphen. So a name is
  never an option, a number or a path.

  Correspondence (program ↔ model):
    `validate_username`                 ↔ `check`
    `ValidationError`, as to user names ↔ `Fault`
    `MAX_USERNAME_LENGTH`               ↔ `lengthLimit`
-/

namespace SubordinateIds

/-- Why a text is no login name. -/
inductive LoginName.Fault where
  | empty
  | tooLong (length : Nat)
  | stray (name : String) (character : Char)
  | trailingHyphen (name : String)
  deriving DecidableEq, Repr

namespace LoginName

/-- Names must be shorter than this many octets. -/
def lengthLimit : Nat := 256

/-- The wording of a fault. -/
def Fault.message : Fault → String
  | .empty => "username must not be empty"
  | .tooLong length => s!"username exceeds length limit ({length} >= {lengthLimit})"
  | .stray name character => s!"invalid character {Text.quotedChar character} in username {name}"
  | .trailingHyphen name => s!"username must not end with '-': {name}"

/-- The characters a name may start with. -/
def canStart (c : Char) : Bool := c.isLower || c == '_'

/-- The characters a name may go on with. -/
def canFollow (c : Char) : Bool :=
  c.isLower || c.isDigit || c == '.' || c == '_' || c == '-'

/-- The first character after the start of a name that may not stand where it
stands. -/
def strayAfterStart? : List Char → Option Char
  | [] => none
  | c :: cs => if canFollow c || (c == '$' && cs.isEmpty) then strayAfterStart? cs else some c

/-- The first character that may not stand where it stands. -/
def stray? : List Char → Option Char
  | [] => none
  | c :: cs => if canStart c then strayAfterStart? cs else some c

/-- Accepts login names; otherwise gives the first fault. -/
def check (name : String) : Except Fault Unit :=
  if name.isEmpty then .error .empty
  else if name.utf8ByteSize ≥ lengthLimit then .error (.tooLong name.utf8ByteSize)
  else
    match stray? name.toList with
    | some c => .error (.stray name c)
    | none => if name.toList.getLast? = some '-' then .error (.trailingHyphen name) else .ok ()

end LoginName

end SubordinateIds
