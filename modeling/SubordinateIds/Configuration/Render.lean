import SubordinateIds.Configuration.Basic

/-
  Renderings — a configuration as text, JSON or TOML

  Each form lists the ten keys in the order of `Key.all`. The text form aligns
  the values in one column and writes switches as yes and no; the other two
  write them as true and false.

  Correspondence (program ↔ model):
    `RenderFormat`        ↔ `Form`
    `SubidConfig::render` ↔ `render`
    `render_text`         ↔ `textLine`
    `ConfigView`          ↔ `jsonMember` and `tomlLine`
-/

namespace SubordinateIds.Configuration

/-- The forms in which a configuration is shown. -/
inductive Form where
  | text
  | json
  | toml
  deriving DecidableEq, Repr

/-- The width of the widest key, its colon included. -/
def labelWidth : Nat := (Key.all.map (·.spelling.length)).foldl max 0 + 1

/-- The key and its colon, filled up with spaces. -/
def label (key : Key) : String :=
  let text := key.spelling ++ ":"
  text ++ String.ofList (List.replicate (labelWidth - text.length) ' ')

/-- One line of the text form. -/
def textLine (c : Configuration) (key : Key) : String := label key ++ " " ++ c.valueText key ++ "\n"

/-- The value at a key as a number or a truth value. -/
def literal (c : Configuration) : Key → String
  | .number key => toString (c.number key)
  | .switch key => if c.switch key then "true" else "false"

/-- One member of the JSON form. -/
def jsonMember (c : Configuration) (key : Key) : String :=
  "  \"" ++ key.spelling ++ "\": " ++ c.literal key

/-- One line of the TOML form. -/
def tomlLine (c : Configuration) (key : Key) : String :=
  key.spelling ++ " = " ++ c.literal key ++ "\n"

/-- The configuration in a form. -/
def render (c : Configuration) : Form → String
  | .text => String.join (Key.all.map c.textLine)
  | .json => "\x7b\n" ++ String.intercalate ",\n" (Key.all.map c.jsonMember) ++ "\n\x7d"
  | .toml => String.join (Key.all.map c.tomlLine)

end SubordinateIds.Configuration
