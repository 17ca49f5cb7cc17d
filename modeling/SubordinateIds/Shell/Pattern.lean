/-
  Patterns — texts with wild characters

  In a pattern `*` stands for any text, `?` for any character and a set in brackets
  for one of its characters, or for one that is not in it after `!`. A character of a
  pattern that was quoted stands for itself, and so does one after a backslash.

  Characters are octets, and octets have a sign: the upper half of them comes before
  the lower one.
-/

namespace SubordinateIds.Shell

/-- One item of a pattern. A set is a list of ranges. -/
inductive PatternItem where
  | one (c : Char)
  | any
  | many
  | set (negated : Bool) (ranges : List (Char × Char))
  deriving DecidableEq, Repr

/-- A pattern. -/
abbrev Pattern := List PatternItem

namespace Pattern

/-- The ranges of the named classes of characters. -/
def classRanges : List (String × List (Char × Char)) := [
  ("alpha", [('a', 'z'), ('A', 'Z')]),
  ("digit", [('0', '9')]),
  ("alnum", [('a', 'z'), ('A', 'Z'), ('0', '9')]),
  ("upper", [('A', 'Z')]),
  ("lower", [('a', 'z')]),
  ("xdigit", [('0', '9'), ('a', 'f'), ('A', 'F')]),
  ("space", [('\t', '\r'), (' ', ' ')]),
  ("blank", [('\t', '\t'), (' ', ' ')]),
  ("cntrl", [('\x00', '\x1f'), ('\x7f', '\x7f')]),
  ("print", [(' ', '~')]),
  ("graph", [('!', '~')]),
  ("punct", [('!', '/'), (':', '@'), ('[', '`'), ('\x7b', '~')])]

/-- Reads the ranges of a set up to its closing bracket, which counts as a member in
the first place. Characters come with whether they are wild. -/
def ranges? :
    Nat → Bool → List (Char × Bool) → Option (List (Char × Char) × List (Char × Bool))
  | 0, _, _ => none
  | fuel + 1, first, cs =>
    match cs with
    | [] => none
    | (']', true) :: rest => if first then more fuel ']' rest else some ([], rest)
    | ('[', true) :: (':', true) :: rest =>
      let name := (rest.takeWhile (·.1.isAlpha)).map (·.1)
      match classRanges.lookup (String.ofList name), rest.drop name.length with
      | some named, (':', true) :: (']', true) :: rest => do
        let (ranges, rest) ← ranges? fuel false rest
        return (named ++ ranges, rest)
      | _, _ => more fuel '[' ((':', true) :: rest)
    | (c, _) :: rest => more fuel c rest
where
  /-- Reads the rest of a range that starts with a character, and the ranges after it. -/
  more (fuel : Nat) (c : Char) (cs : List (Char × Bool)) :
      Option (List (Char × Char) × List (Char × Bool)) :=
    match cs with
    | ('-', true) :: (d, wild) :: rest =>
      if d = ']' && wild then do
        let (ranges, rest) ← ranges? fuel false cs
        return ((c, c) :: ranges, rest)
      else do
        let (ranges, rest) ← ranges? fuel false rest
        return ((c, d) :: ranges, rest)
    | _ => do
      let (ranges, rest) ← ranges? fuel false cs
      return ((c, c) :: ranges, rest)

/-- The pattern that characters make up, each with whether it is wild. -/
def ofChars : Nat → List (Char × Bool) → Pattern
  | 0, cs => cs.map (.one ·.1)
  | fuel + 1, cs =>
    match cs with
    | [] => []
    | ('*', true) :: rest => .many :: ofChars fuel rest
    | ('?', true) :: rest => .any :: ofChars fuel rest
    | ('[', true) :: rest =>
      let negated := rest.head?.any fun e => e.2 && e.1 = '!'
      match ranges? (rest.length + 1) true (if negated then rest.tail else rest) with
      | some (ranges, rest) => .set negated ranges :: ofChars fuel rest
      | none => .one '[' :: ofChars fuel rest
    | (c, _) :: rest => .one c :: ofChars fuel rest

/-- The characters that quotes keep from being wild. -/
def isGuarded (c : Char) : Bool := "!*?[=~:/-]\\".toList.elem c

/-- The characters of a pattern without wild backslashes: one makes the next character
plain, and is plain itself if that was done by quotes before, or if there is none. -/
def plainBackslashes : List (Char × Bool) → List (Char × Bool)
  | ('\\', true) :: (c, wild) :: rest =>
    if !wild && isGuarded c then ('\\', false) :: (c, false) :: plainBackslashes rest
    else (c, false) :: plainBackslashes rest
  | ('\\', true) :: [] => [('\\', false)]
  | e :: rest => e :: plainBackslashes rest
  | [] => []

/-- The pattern that characters make up. Every item takes one of them at least. -/
def of (cs : List (Char × Bool)) : Pattern := ofChars cs.length (plainBackslashes cs)

/-- The number of an octet, which is less than zero in the upper half. -/
def signed (c : Char) : Int := if c.toNat < 128 then c.toNat else (c.toNat : Int) - 256

/-- Whether an item stands for the character. -/
def itemFits (item : PatternItem) (c : Char) : Bool :=
  match item with
  | .one d => c == d
  | .any => true
  | .many => false
  | .set negated ranges =>
    let isIn (r : Char × Char) : Bool := signed r.1 ≤ signed c && signed c ≤ signed r.2
    ranges.any isIn != negated

/-- The ends of a text, from the whole of it on. -/
def tails : List Char → List (List Char)
  | [] => [[]]
  | c :: cs => (c :: cs) :: tails cs

/-- Whether a whole text fits. -/
def fits : Pattern → List Char → Bool
  | [], cs => cs.isEmpty
  | .many :: items, cs => (tails cs).any fun rest => fits items rest
  | item :: items, c :: cs => itemFits item c && fits items cs
  | _ :: _, [] => false

/-- The text without a part at one end that fits, the longest or the shortest. A text
that is looked at ends where a NUL is. -/
def trim (pattern : Pattern) (atEnd longest : Bool) (cs : List Char) : List Char :=
  let counts := List.range (cs.length + 1)
  let fitsAt (n : Nat) : Bool :=
    let part := if atEnd then cs.drop (cs.length - n) else cs.take n
    pattern.fits (part.takeWhile (· != '\x00'))
  match (if longest then counts.reverse else counts).find? fitsAt with
  | some n => if atEnd then cs.take (cs.length - n) else cs.drop n
  | none => cs

end Pattern

end SubordinateIds.Shell
