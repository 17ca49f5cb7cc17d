import SubordinateIds.Octets

/-
  UTF-8 — reading octets as text

  A machine walks over the octets, one at a time. It stands either between two
  characters or inside one, where it knows the bits read so far, the bounds of
  the next octet and how many octets are owed after that. It gives a character
  for each well-formed sequence and a blot for each ill-formed one; a sequence
  is given up at the first octet that rules it out, and that octet is read
  again as the start of the next. So one blot stands for each maximal part
  that could have begun a character.

  `decode?` reads octets that have no blot, `lossy` shows each blot as U+FFFD.
-/

namespace SubordinateIds.Utf8

/-- Where the machine stands between two octets. -/
inductive State where
  | start
  | owing (bits : Nat) (low high : UInt8) (more : Nat)
  deriving DecidableEq, Repr

/-- What was read: a character, or a blot where no character can be. -/
inductive Piece where
  | char (c : Char)
  | blot
  deriving DecidableEq, Repr

/-- Reads the first octet of a character. -/
def enter (b : UInt8) : List Piece × State :=
  if b < 0x80 then ([.char (Char.ofNat b.toNat)], .start)
  else if b < 0xc2 then ([.blot], .start)
  else if b < 0xe0 then ([], .owing (b.toNat - 0xc0) 0x80 0xbf 0)
  else if b < 0xf0 then
    ([], .owing (b.toNat - 0xe0) (if b = 0xe0 then 0xa0 else 0x80) (if b = 0xed then 0x9f else 0xbf) 1)
  else if b < 0xf5 then
    ([], .owing (b.toNat - 0xf0) (if b = 0xf0 then 0x90 else 0x80) (if b = 0xf4 then 0x8f else 0xbf) 2)
  else ([.blot], .start)

/-- Reads one octet: what it completes, and where the machine stands after it. -/
def step : State → UInt8 → List Piece × State
  | .start, b => enter b
  | .owing bits low high more, b =>
    if low ≤ b && b ≤ high then
      let bits := bits * 64 + (b.toNat - 0x80)
      match more with
      | 0 => ([.char (Char.ofNat bits)], .start)
      | more + 1 => ([], .owing bits 0x80 0xbf more)
    else (.blot :: (enter b).1, (enter b).2)

/-- What the octets hold, from a state on. A character broken off by the end
is a blot. -/
def piecesFrom : State → Octets → List Piece
  | .start, [] => []
  | .owing .., [] => [.blot]
  | s, b :: bs => (step s b).1 ++ piecesFrom (step s b).2 bs

/-- What the octets hold. -/
def pieces (bs : Octets) : List Piece := piecesFrom .start bs

/-- The piece as a character, if it is one. -/
def Piece.char? : Piece → Option Char
  | .char c => some c
  | .blot => none

/-- The piece as a character; a blot is U+FFFD. -/
def Piece.shown : Piece → Char
  | .char c => c
  | .blot => '\uFFFD'

/-- The characters of the octets, if every one of them is well formed. -/
def decode? (bs : Octets) : Option (List Char) := (pieces bs).mapM Piece.char?

/-- The octets as text, with U+FFFD for what is no character. -/
def lossy (bs : Octets) : String := String.ofList ((pieces bs).map Piece.shown)

/-- The octets of a text. -/
def encode (cs : List Char) : Octets := cs.flatMap String.utf8EncodeChar

end SubordinateIds.Utf8
