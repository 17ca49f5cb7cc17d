import SubordinateIds.Configuration.Line
import SubordinateIds.Machine.Basic
import SubordinateIds.Path.Validity

/-
  Sources — configuration files, and whether they are taken

  A file is taken only if its path is valid, it can be opened, the status of the
  open file is trusted, and all of it can be read and is no larger than 1 MiB. The
  status is asked of the open file, so what was checked is what is read. A file
  that is not taken gives no setting at all.

  Correspondence (program ↔ model):
    `apply_file`           ↔ `Yield.ofFile`
    `open_secure`          ↔ of and `ofOpenFile`
    `read_bounded`         ↔ the last test of `ofOpenFile`
    `MAX_CONFIG_FILE_SIZE` ↔ `sizeLimit`
-/

namespace SubordinateIds

/-- What becomes of a configuration file. -/
inductive Source where
  | badPath (fault : Path.Fault)
  | missing
  | notOpened (error : SystemError)
  | noStatus (error : SystemError)
  | untrusted (violation : FileStatus.Violation)
  | notRead (error : SystemError)
  | tooLarge
  | taken (contents : Octets)

namespace Source

/-- Files may be as large as this many octets. -/
def sizeLimit : Nat := 1048576

/-- What becomes of an open file. One octet more than the limit is read, to see
whether the file is larger. -/
def ofOpenFile (file : OpenFile) : Source :=
  match file.status with
  | .error error => .noStatus error
  | .ok status =>
    match status.checkFile with
    | .error violation => .untrusted violation
    | .ok () =>
      match file.read (sizeLimit + 1) with
      | .error error => .notRead error
      | .ok contents => if contents.length > sizeLimit then .tooLarge else .taken contents

/-- What becomes of the file at a path. -/
def of (m : Machine) (p : Path) : Source :=
  match p.check with
  | .error fault => .badPath fault
  | .ok () =>
    match m.openFile p with
    | .error .notFound => .missing
    | .error error => .notOpened error
    | .ok file => ofOpenFile file

/-- Whether it was tried to open the file. -/
def wasOpened : Source → Bool
  | .badPath _ => false
  | _ => true

/-- The lines of a file that is taken. -/
def lines : Source → List Line
  | .taken contents => Line.ofContents contents
  | _ => []

/-- The event for a path that is not valid. -/
def badPathEvent (fault : Path.Fault) : Event :=
  .error "config_path_invalid" s!"invalid config path: {fault.message}"

/-- The event that follows the opening of the file at a path. -/
def verdict (path : Path) : Source → Event
  | .badPath fault => badPathEvent fault
  | .missing => .debug "config_missing" s!"config file does not exist: {path.display}"
  | .notOpened error => .error "config_open_failed" s!"cannot open {path.display}: {error}"
  | .noStatus error => .error "config_stat_failed" s!"cannot fstat {path.display}: {error}"
  | .untrusted violation =>
    .error "config_insecure" s!"ignoring config file {path.display}: {violation.message}"
  | .notRead error => .error "config_read_failed" s!"cannot read {path.display}: {error}"
  | .tooLarge =>
    .error "config_too_large" s!"ignoring config file {path.display}: exceeds {sizeLimit} bytes"
  | .taken _ => .debug "config_parse" s!"parsing config file: {path.display}"

end Source

/-- What one or more sources give: settings, events and the paths that were
opened, each in order. -/
structure Yield where
  settings : List Setting
  events : List Event
  opened : List Path

namespace Yield

/-- What no source gives. -/
def empty : Yield := ⟨[], [], []⟩

/-- What two sources give, one after the other. -/
def append (a b : Yield) : Yield :=
  ⟨a.settings ++ b.settings, a.events ++ b.events, a.opened ++ b.opened⟩

/-- What sources give, one after the other. -/
def join (ys : List Yield) : Yield :=
  ⟨ys.flatMap settings, ys.flatMap events, ys.flatMap opened⟩

/-- What nothing but events gives. -/
def ofEvents (events : List Event) : Yield := ⟨[], events, []⟩

/-- What the file at a path gives, once it is known what becomes of it. -/
def ofSource (path : Path) (source : Source) : Yield :=
  let opening := Event.debug "config_open" s!"opening config file: {path.display}"
  let lines := source.lines
  { settings := lines.filterMap Line.setting?
    events := (if source.wasOpened then [opening] else []) ++
      source.verdict path :: lines.filterMap (Line.event? path)
    opened := if source.wasOpened then [path] else [] }

/-- What the file at a path gives. -/
def ofFile (m : Machine) (path : Path) : Yield := ofSource path (Source.of m path)

end Yield

end SubordinateIds
