import SubordinateIds.Text.Printable

/-
  Quoted characters — how an offending character is shown in a message

  The character stands between apostrophes. NUL, tab, line feed, carriage
  return, the apostrophe and the backslash have a short form with a backslash;
  any other character that would not show is written by its code point.
-/

namespace SubordinateIds.Text

/-- The lower-case hexadecimal digits of a number. -/
def hex (n : Nat) : String := String.ofList (Nat.toDigits 16 n)

/-- The character as it stands between the apostrophes. -/
def escapedChar (c : Char) : String :=
  if c = '\x00' then "\\0"
  else if c = '\t' then "\\t"
  else if c = '\n' then "\\n"
  else if c = '\r' then "\\r"
  else if c = '\'' then "\\'"
  else if c = '\\' then "\\\\"
  else if isPrintable c then String.singleton c
  else "\\u\x7b" ++ hex c.toNat ++ "\x7d"

/-- The character between apostrophes. -/
def quotedChar (c : Char) : String := "'" ++ escapedChar c ++ "'"

end SubordinateIds.Text
