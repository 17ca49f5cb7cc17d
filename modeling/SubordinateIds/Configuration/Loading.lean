import SubordinateIds.Configuration.Fragment
import SubordinateIds.Configuration.Source

/-
  Loading — the configuration of a machine

  Settings are gathered from a list of files, then from the fragments in one
  directory, in the order of their names, and the last one for a key counts. A
  file that is missing or not trusted is left out. The directory alone can stop
  the loading: when its path is not valid, when it is not trusted, or when it is
  there and cannot be looked at.

  Correspondence (program ↔ model):
    `ConfigSources`                          ↔ `Sources`
    `load_configuration`                     ↔ `run`
    `apply_dropin_dir`                       ↔ `fromDirectory`, `scanned`, `listed` and `fragment`
    `trace_config`                           ↔ `trace`
    `ConfigError::Io`, `::InsecureDirectory` ↔ `Fault`
-/

namespace SubordinateIds

/-- Where settings are looked for. -/
structure Sources where
  files : List Path
  directory : Path
  deriving DecidableEq, Repr

/-- The places where a system keeps the settings. -/
def Sources.standard : Sources where
  files := [Path.ofString "/etc/login.defs", Path.ofString "/etc/static-subid.conf"]
  directory := Path.ofString "/etc/static-subid.conf.d"

/-- Why loading stops. -/
inductive Loading.Fault where
  | badDirectory (directory : Path) (fault : Path.Fault)
  | untrustedDirectory (directory : Path) (violation : FileStatus.Violation)
  | noStatus (directory : Path) (error : SystemError)
  | notListed (directory : Path) (error : SystemError)
  deriving DecidableEq, Repr

/-- What loading comes to: a configuration or the reason for stopping, all events
whatever their level, and the paths that were opened. -/
structure Loading where
  result : Except Loading.Fault Configuration
  events : List Event
  opened : List Path

namespace Loading

/-- The wording of a fault. -/
def Fault.message : Fault → String
  | .badDirectory directory fault =>
    s!"insecure config directory {directory.display}: {fault.message}"
  | .untrustedDirectory directory violation =>
    s!"insecure config directory {directory.display}: {violation.message}"
  | .noStatus directory error => s!"config io error: cannot stat {directory.display}: {error}"
  | .notListed directory error =>
    s!"config io error: cannot scan directory {directory.display}: {error}"

/-- The trace of a whole configuration, one key an event. -/
def trace (c : Configuration) : List Event :=
  Key.all.map fun key => .debug "config_value" s!"  {key.spelling}: {c.valueText key}"

/-- The names that are fragments, in the order of their octets. -/
def fragmentNames (names : List Octets) : List Octets :=
  (names.filter fun name => (Utf8.decode? name).isSome && Fragment.isName name).mergeSort Octets.le

/-- The events for names that are no text. -/
def nameEvents (names : List Octets) : List Event :=
  (names.filter fun name => (Utf8.decode? name).isNone).map fun name =>
    .debug "config_fragment_rejected" s!"skipping non-utf-8 filename: {Utf8.lossy name}"

/-- What the entry of the directory gives that has a fragment's name. -/
def fragment (m : Machine) (directory : Path) (name : Octets) : Yield :=
  match Fragment.hazard? name with
  | some hazard =>
    .ofEvents [.debug "config_fragment_rejected"
      s!"skipping filename with {hazard}: {Utf8.lossy name}"]
  | none =>
    let path := directory.child name
    match path.check with
    | .error fault => .ofEvents [Source.badPathEvent fault]
    | .ok () =>
      (Yield.ofEvents
        [.debug "config_fragment" s!"processing config file: {path.display}"]).append
        (.ofFile m path)

/-- What a directory with these names in it gives. -/
def listed (m : Machine) (directory : Path) (names : List Octets) : Yield :=
  let fragments := fragmentNames names
  let found := if fragments.isEmpty then [] else
    [Event.debug "config_dir_found"
      s!"found {fragments.length} config file(s) in {directory.display}"]
  (Yield.ofEvents (nameEvents names ++ found)).append
    (.join (fragments.map (fragment m directory)))

/-- What a trusted directory gives, or why loading stops at it. -/
def scanned (m : Machine) (directory : Path) : Except Fault Yield × List Event :=
  let scan := Event.debug "config_dir_scan" s!"scanning config directory: {directory.display}"
  match m.list directory with
  | .error .notFound => (.ok .empty, [scan])
  | .error error => (.error (.notListed directory error), [scan])
  | .ok names => (.ok (listed m directory names), [scan])

/-- What a directory gives, or why loading stops at it, with the events that come
before what it gives. -/
def fromDirectory (m : Machine) (directory : Path) : Except Fault Yield × List Event :=
  match directory.check with
  | .error fault => (.error (.badDirectory directory fault), [])
  | .ok () =>
    match m.status directory with
    | .error .notFound =>
      (.ok .empty, [.debug "config_dir_missing"
        s!"config directory does not exist: {directory.display}"])
    | .error error => (.error (.noStatus directory error), [])
    | .ok status =>
      match status.checkDirectory with
      | .error violation =>
        (.error (.untrustedDirectory directory violation), [.error "config_dir_insecure"
          s!"config directory {directory.display} is insecure: {violation.message}"])
      | .ok () => scanned m directory

/-- What the files of the sources give. -/
def fromFiles (m : Machine) (files : List Path) : Yield := .join (files.map (.ofFile m))

/-- Loads the configuration of a machine. -/
def run (m : Machine) (sources : Sources) : Loading :=
  let begun := Event.debug "config_defaults" "loading configuration (defaults set)" ::
    trace .default
  let files := fromFiles m sources.files
  match fromDirectory m sources.directory with
  | (.error fault, events) =>
    { result := .error fault, events := begun ++ files.events ++ events, opened := files.opened }
  | (.ok fragments, events) =>
    let c := Configuration.default.setAll (files.settings ++ fragments.settings)
    { result := .ok c
      events := begun ++ files.events ++ events ++ fragments.events ++
        Event.debug "config_loaded" "effective configuration" :: trace c
      opened := files.opened ++ fragments.opened }

end Loading

end SubordinateIds
