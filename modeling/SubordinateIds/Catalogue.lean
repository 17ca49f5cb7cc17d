/-
  Catalogue — the wording of what the program says to its user

  A message is looked up by its key; a key without an entry is its own wording.
  A placeholder is a name in braces. The arguments are put in one after the
  other, each at every place where its placeholder stands at that moment.

  Correspondence (program ↔ model):
    `CATALOG_EN` ↔ `entries`
    `catalog`    ↔ `template`
    `MessageArg` ↔ an argument of `fill`
    `translate`  ↔ `message`

  The entry `config.render_failed` is kept with the others, but no complaint uses it: a rendering
  cannot fail here.
-/

namespace SubordinateIds.Catalogue

/-- Every entry, by key. -/
def entries : List (String × String) := [
  ("main.version", "static-subid \x7bversion\x7d"),
  ("output.stdout_failed", "static-subid: failed to write to stdout: \x7berror\x7d"),
  ("args.mode_required", "static-subid: at least one of --subuid or --subgid is required"),
  ("args.user_required", "static-subid: a username or UID is required"),
  ("args.dump_conflict", "static-subid: --dump-config does not take a user or mode flags"),
  ("config.load_failed", "static-subid: cannot load configuration: \x7berror\x7d"),
  ("config.render_failed", "static-subid: cannot render configuration: \x7berror\x7d"),
  ("workflow.failed", "static-subid: \x7berror\x7d"),
  ("noop.would_execute", "static-subid: noop: would execute: \x7bcommand\x7d")]

/-- The wording of a key. -/
def template (key : String) : String := (entries.lookup key).getD key

/-- Puts `value` where `hole` stands, from left to right, and never looks into
what was put in. The number counts the characters of a hole that are still to
be passed over. -/
def replaceFrom (hole value : List Char) : Nat → List Char → List Char
  | _, [] => []
  | skip + 1, _ :: cs => replaceFrom hole value skip cs
  | 0, c :: cs =>
    if hole.isPrefixOf (c :: cs) then value ++ replaceFrom hole value (hole.length - 1) cs
    else c :: replaceFrom hole value 0 cs

/-- The placeholder of a name. -/
def placeholder (name : List Char) : List Char := '\x7b' :: name ++ ['\x7d']

/-- Puts one argument in. -/
def fill (text : List Char) (argument : String × String) : List Char :=
  replaceFrom (placeholder argument.1.toList) argument.2.toList 0 text

/-- The message for a key and its named arguments. -/
def message (key : String) (arguments : List (String × String)) : String :=
  String.ofList (arguments.foldl fill (template key).toList)

end SubordinateIds.Catalogue
