import SubordinateIds.Configuration.Render
import SubordinateIds.Journal.Log
import SubordinateIds.Text.Utf8

/-
  Invocations — the words of a command line, and what they ask for

  Flags, options with a value and one user may stand in any order. Nothing may be
  given twice, names are not abbreviated, and the case of values counts. The value
  of an option follows an equals sign or is the next word, which must not look
  like an option. Short flags may share one hyphen. After a double hyphen every
  word is a user. The words are read from the left: the first mistake ends the
  reading, and so does a request for help that comes before any mistake.

  Correspondence (program ↔ model):
    `Cli`            ↔ `Invocation`
    `LogFormatArg`   ↔ `logFormat?`
    `DumpFormatArg`  ↔ `form?`
    `Cli::try_parse` ↔ `read`

  The parser behind `try_parse` is no part of the program. `read` does what it is documented to
  do; the wording of its complaints and of its help is left out.
-/

namespace SubordinateIds

/-- The words that stand for themselves. -/
inductive Flag where
  | version
  | subuid
  | subgid
  | debug
  | noop
  | dumpConfig
  deriving DecidableEq, Repr

/-- The options that take a value. -/
inductive ValueOption where
  | logFormat
  | form
  deriving DecidableEq, Repr

/-- What a command line asks for. -/
structure Invocation where
  flags : List Flag
  logFormat : Option LogFormat
  form : Option Configuration.Form
  user : Option String
  deriving DecidableEq, Repr

namespace Invocation

/-- Why a command line asks for nothing that can be done. -/
inductive Stop where
  | help
  | misuse
  deriving DecidableEq, Repr

/-- The command line without words. -/
def empty : Invocation := ⟨[], none, none, none⟩

/-- Whether a flag is given. -/
def has (inv : Invocation) (flag : Flag) : Bool := inv.flags.contains flag

/-- A name on the command line, after its hyphens. -/
inductive Name where
  | help
  | flag (flag : Flag)
  | option (option : ValueOption)
  deriving DecidableEq, Repr

/-- The names that stand after two hyphens. -/
def longNames : List (String × Name) := [
  ("help", .help),
  ("version", .flag .version),
  ("subuid", .flag .subuid),
  ("subgid", .flag .subgid),
  ("debug", .flag .debug),
  ("noop", .flag .noop),
  ("log-format", .option .logFormat),
  ("dump-config", .flag .dumpConfig),
  ("format", .option .form)]

/-- The letters that stand after one hyphen. -/
def shortNames : List (Char × Name) := [
  ('h', .help),
  ('d', .flag .debug),
  ('n', .flag .noop)]

/-- The octet in front of names. -/
def hyphen : UInt8 := Octets.ofChar '-'

/-- The octet between a name and its value. -/
def equals : UInt8 := Octets.ofChar '='

/-- The octets of an ASCII text. -/
def octetsOf (text : String) : Octets := Octets.ofChars text.toList

/-- What a name after two hyphens stands for. -/
def longName? (name : Octets) : Option Name :=
  (longNames.find? fun e => octetsOf e.1 == name).map (·.2)

/-- What a letter after one hyphen stands for. -/
def shortName? (letter : UInt8) : Option Name :=
  (shortNames.find? fun e => Octets.ofChar e.1 == letter).map (·.2)

/-- The value of the option that sets the form of log lines. -/
def logFormat? (value : Octets) : Option LogFormat :=
  if value = octetsOf "text" then some .text
  else if value = octetsOf "json" then some .json
  else none

/-- The value of the option that sets the form of a shown configuration. -/
def form? (value : Octets) : Option Configuration.Form :=
  if value = octetsOf "text" then some .text
  else if value = octetsOf "json" then some .json
  else if value = octetsOf "toml" then some .toml
  else none

/-- Takes a flag, once. -/
def giveFlag (inv : Invocation) (flag : Flag) : Except Stop Invocation :=
  if inv.has flag then .error .misuse else .ok { inv with flags := inv.flags ++ [flag] }

/-- Takes the value of an option, once. -/
def giveValue (inv : Invocation) (option : ValueOption) (value : Octets) :
    Except Stop Invocation :=
  match option with
  | .logFormat =>
    match inv.logFormat, logFormat? value with
    | none, some format => .ok { inv with logFormat := some format }
    | _, _ => .error .misuse
  | .form =>
    match inv.form, form? value with
    | none, some form => .ok { inv with form := some form }
    | _, _ => .error .misuse

/-- Takes the user, once. A user is text. -/
def giveUser (inv : Invocation) (word : Octets) : Except Stop Invocation :=
  match inv.user, Utf8.decode? word with
  | none, some text => .ok { inv with user := some (String.ofList text) }
  | _, _ => .error .misuse

/-- What the next word may be. -/
inductive Expecting where
  | anything
  | value (option : ValueOption)
  | users
  deriving DecidableEq, Repr

/-- Whether a word looks like an option: a hyphen with something after it. -/
def looksLikeOption : Octets → Bool
  | first :: _ :: _ => first == hyphen
  | _ => false

/-- Reads a name after two hyphens, with the value after its equals sign if it
has one. -/
def readLong (inv : Invocation) (body : Octets) : Except Stop (Invocation × Expecting) :=
  match longName? (Octets.upTo equals body), (body.dropWhile (· != equals)).tail? with
  | some .help, none => .error .help
  | some (.flag flag), none => (inv.giveFlag flag).map (·, .anything)
  | some (.option option), some value => (inv.giveValue option value).map (·, .anything)
  | some (.option option), none => .ok (inv, .value option)
  | _, _ => .error .misuse

/-- Reads one letter after one hyphen. -/
def readShort (inv : Invocation) (letter : UInt8) : Except Stop Invocation :=
  match shortName? letter with
  | some .help => .error .help
  | some (.flag flag) => inv.giveFlag flag
  | _ => .error .misuse

/-- Reads one word. -/
def readWord (inv : Invocation) (expecting : Expecting) (word : Octets) :
    Except Stop (Invocation × Expecting) :=
  match expecting with
  | .users => (inv.giveUser word).map (·, .users)
  | .value option =>
    if looksLikeOption word then .error .misuse
    else (inv.giveValue option word).map (·, .anything)
  | .anything =>
    if !looksLikeOption word then (inv.giveUser word).map (·, .anything)
    else if word = [hyphen, hyphen] then .ok (inv, .users)
    else if [hyphen, hyphen].isPrefixOf word then inv.readLong (word.drop 2)
    else (word.tail.foldlM readShort inv).map (·, .anything)

/-- Reads words, until one of them ends the reading. -/
def readFrom : Invocation → Expecting → List Octets → Except Stop Invocation
  | _, .value _, [] => .error .misuse
  | inv, _, [] => .ok inv
  | inv, expecting, word :: words =>
    match inv.readWord expecting word with
    | .error stop => .error stop
    | .ok (inv, expecting) => readFrom inv expecting words

/-- Reads a command line, without the name of the program. -/
def read (words : List Octets) : Except Stop Invocation := readFrom .empty .anything words

end Invocation

end SubordinateIds
