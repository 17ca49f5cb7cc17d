import SubordinateIds.Configuration.Basic
import SubordinateIds.Journal.Event
import SubordinateIds.Path.Basic
import SubordinateIds.Text.Utf8

/-
  Lines — what a line of a configuration file says

  A line ends at a line feed. What follows the first `#` does not count, in
  whatever encoding; what is left, without blanks at its ends, is a key, blanks
  and a value. A line gives at most one setting and at most one event, and
  neither depends on the settings before it.

  Correspondence (program ↔ model):
    `normalize_config_line` ↔ `normalize`
    `split_key_value`       ↔ `split?`
    `apply_line`            ↔ `ofOctets`, `setting?` and `event?`
    `MAX_LINE_LENGTH`       ↔ `lengthLimit`

  The program applies a line to the configuration that it has; here a line is read as the setting
  that it makes, and the settings are made later.
-/

namespace SubordinateIds

namespace Line

/-- Lines may be as long as this many octets. -/
def lengthLimit : Nat := 1024

/-- The octet that ends a line. -/
def feed : UInt8 := Octets.ofChar '\n'

/-- The octet that starts a comment. -/
def hash : UInt8 := Octets.ofChar '#'

/-- The line without its comment and without blanks at its ends. -/
def normalize (line : List Char) : List Char := Text.trim (line.takeWhile (· != '#'))

/-- The key and the value, if there is a value: the text before the first blank
and what follows the blanks after it. -/
def split? (line : List Char) : Option (List Char × List Char) :=
  match line.dropWhile (!Text.isBlank ·) with
  | [] => none
  | _ :: rest =>
    match Text.trimStart rest with
    | [] => none
    | value => some (line.takeWhile (!Text.isBlank ·), value)

end Line

/-- What a line says. -/
inductive Line where
  | tooLong
  | undecodable
  | blank
  | bare (text : String)
  | unknownKey
  | refused (fault : Setting.Fault)
  | accepted (key value : String) (setting : Setting)
  deriving DecidableEq, Repr

namespace Line

/-- What a key and a value say. -/
def ofPair (key value : String) : Line :=
  match Setting.read key value with
  | .ok (some setting) => .accepted key value setting
  | .ok none => .unknownKey
  | .error fault => .refused fault

/-- What the text of a line says. -/
def ofText (text : List Char) : Line :=
  match normalize text with
  | [] => .blank
  | clean =>
    match split? clean with
    | none => .bare (String.ofList clean)
    | some (key, value) => ofPair (String.ofList key) (String.ofList value)

/-- What the octets of a line say. -/
def ofOctets (bs : Octets) : Line :=
  if bs.length > lengthLimit then .tooLong
  else
    match Utf8.decode? (Octets.upTo hash bs) with
    | none => .undecodable
    | some text => ofText text

/-- The lines of a file. -/
def ofContents (contents : Octets) : List Line := (Octets.splitOn feed contents).map ofOctets

/-- The setting that the line gives. -/
def setting? : Line → Option Setting
  | .accepted _ _ setting => some setting
  | _ => none

/-- The event for a line of the file at a path. -/
def event? (path : Path) : Line → Option Event
  | .tooLong => some (.debug "config_line_skipped" s!"skipping over-long line in {path.display}")
  | .undecodable => some (.debug "config_line_skipped" s!"skipping non-utf-8 line in {path.display}")
  | .blank => none
  | .bare text => some (.debug "config_line_skipped" s!"skipping key without value: {text}")
  | .unknownKey => none
  | .refused (.countLimit key value) =>
    some (.error "config_value_rejected"
      s!"file {path.display} {(Setting.Fault.countLimit key value).message}")
  | .refused fault => some (.debug "config_value_ignored" s!"{path.display}: {fault.message}")
  | .accepted key value _ => some (.debug "config_value" s!"{path.display}: {key} = {value}")

end Line

end SubordinateIds
