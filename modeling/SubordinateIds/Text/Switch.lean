/-
  Switches — the words for on and off

  yes, true and 1 are on; no, false and 0 are off. The case of ASCII letters
  does not count. Any other word says nothing.

  Correspondence (program ↔ model):
    `parse_bool` ↔ `read`
-/

namespace SubordinateIds.Switch

/-- What a word says, if it says anything. -/
def read? (word : String) : Option Bool :=
  match word.toList.map Char.toLower with
  | ['y', 'e', 's'] | ['t', 'r', 'u', 'e'] | ['1'] => some true
  | ['n', 'o'] | ['f', 'a', 'l', 's', 'e'] | ['0'] => some false
  | _ => none

/-- What a word says, with an answer for words that say nothing. -/
def read (word : String) (otherwise : Bool) : Bool := (read? word).getD otherwise

/-- The word that is written for a switch. -/
def word (on : Bool) : String := if on then "yes" else "no"

end SubordinateIds.Switch
