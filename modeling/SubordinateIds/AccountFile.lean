import SubordinateIds.Machine.Basic
import SubordinateIds.Text.Decimal

/-
  The account file — user accounts, one a line

  A line holds fields with colons between them; the first is the login name and
  the third the user id. A line without them is passed over.

  Correspondence (program ↔ model):
    `user_record` ↔ `ofLine?`

  The account database is reached through the system library in the program; here it is read
  as a file of lines.
-/

namespace SubordinateIds.AccountFile

/-- The account on a line, if it holds one. -/
def ofLine? (line : String) : Option Account :=
  match line.splitOn ":" with
  | name :: _ :: uid :: _ =>
    match Decimal.read uid with
    | .ok uid => some ⟨name, uid⟩
    | .error _ => none
  | _ => none

/-- The accounts on lines, in order. -/
def ofLines (lines : List String) : List Account := lines.filterMap ofLine?

end SubordinateIds.AccountFile
