/-
  File status — what is known of a file, and whether it can be trusted

  The status of a file is its type, its owner and its permission bits. A file is
  trusted if it is regular, belongs to the superuser and cannot be written by
  others; a directory is trusted if the same holds of it as a directory. The
  first rule that is broken is the violation.

  Correspondence (program ↔ model):
    `FileKind`                    ↔ `FileType`
    `FileStat`                    ↔ `FileStatus`
    `FileStat::new`               ↔ `of`
    `FileStat::is_world_writable` ↔ `worldWritable`
    `SecurityViolation`           ↔ `Violation`
    `ensure_root_controlled`      ↔ `checkControl`
    `ensure_secure_file`          ↔ `checkFile`
    `ensure_secure_dir`           ↔ `checkDirectory`
-/

namespace SubordinateIds

/-- The type of a file. -/
inductive FileType where
  | regular
  | directory
  | symlink
  | charDevice
  | blockDevice
  | fifo
  | socket
  | unknown
  deriving DecidableEq, Repr

/-- The name of the type in messages. -/
def FileType.describe : FileType → String
  | .regular => "regular file"
  | .directory => "directory"
  | .symlink => "symlink"
  | .charDevice => "character device"
  | .blockDevice => "block device"
  | .fifo => "FIFO"
  | .socket => "socket"
  | .unknown => "unknown file type"

instance : ToString FileType := ⟨FileType.describe⟩

/-- Type, owner and permission bits of a file. -/
structure FileStatus where
  type : FileType
  owner : UInt32
  mode : UInt32
  deriving DecidableEq, Repr

namespace FileStatus

/-- The status with the permission bits of a raw mode. -/
def of (type : FileType) (owner mode : UInt32) : FileStatus := ⟨type, owner, mode &&& 0o7777⟩

/-- Whether anyone at all may write the file. -/
def worldWritable (s : FileStatus) : Bool := s.mode &&& 0o002 != 0

/-- Why a file or a directory is not trusted. -/
inductive Violation where
  | notRegular (type : FileType)
  | notDirectory (type : FileType)
  | notRootOwned (owner : UInt32)
  | worldWritable (mode : UInt32)
  deriving DecidableEq, Repr

/-- The octal digits of a number. -/
def octal (n : UInt32) : String := String.ofList (Nat.toDigits 8 n.toNat)

/-- The wording of a violation. -/
def Violation.message : Violation → String
  | .notRegular type => s!"not a regular file ({type})"
  | .notDirectory type => s!"not a directory ({type})"
  | .notRootOwned owner => s!"not owned by root (uid {owner})"
  | .worldWritable mode => s!"world-writable (mode {octal mode})"

/-- Refuses what the superuser does not own and what anyone may write. -/
def checkControl (s : FileStatus) : Except Violation Unit :=
  if s.owner != 0 then .error (.notRootOwned s.owner)
  else if s.worldWritable then .error (.worldWritable s.mode)
  else .ok ()

/-- Accepts trusted regular files. -/
def checkFile (s : FileStatus) : Except Violation Unit :=
  if s.type = .regular then s.checkControl else .error (.notRegular s.type)

/-- Accepts trusted directories. -/
def checkDirectory (s : FileStatus) : Except Violation Unit :=
  if s.type = .directory then s.checkControl else .error (.notDirectory s.type)

end FileStatus

end SubordinateIds
