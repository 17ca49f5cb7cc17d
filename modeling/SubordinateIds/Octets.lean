/-
  Octets — plain sequences of bytes, as files, paths and names hold them

  What is here: splitting at every occurrence of one octet, the order of
  names, and the search for a run of octets inside a longer one. Splitting is
  a right fold, so a file of a million octets is cut without a deep stack;
  `splitOn_cons` is the recursion that the fold stands for.
-/

namespace SubordinateIds

/-- A sequence of bytes. -/
abbrev Octets := List UInt8

namespace Octets

/-- The octet of an ASCII character. -/
abbrev ofChar (c : Char) : UInt8 := c.toUInt8

/-- The octets of a word of ASCII characters. -/
def ofChars (cs : List Char) : Octets := cs.map ofChar

/-- One step of `splitOn`, from the right: a separator opens a new piece, any
other octet goes to the front of the first piece. -/
def splitStep (sep b : UInt8) : List Octets → List Octets
  | [] => if b = sep then [[], []] else [[b]]
  | piece :: pieces => if b = sep then [] :: piece :: pieces else (b :: piece) :: pieces

/-- The pieces between the occurrences of `sep`: one more than there are
separators, and never none. -/
def splitOn (sep : UInt8) (bs : Octets) : List Octets :=
  bs.foldr (splitStep sep) [[]]

@[simp] theorem splitOn_nil (sep : UInt8) : splitOn sep [] = [[]] := rfl

theorem splitOn_cons (sep b : UInt8) (bs : Octets) :
    splitOn sep (b :: bs) = splitStep sep b (splitOn sep bs) := rfl

/-- The octets before the first occurrence of `stop`, all of them if there is
none. -/
def upTo (stop : UInt8) (bs : Octets) : Octets := bs.takeWhile (· != stop)

/-- Whether `run` occurs in a row somewhere in the octets. -/
def hasRun (run : Octets) : Octets → Bool
  | [] => run.isEmpty
  | b :: bs => run.isPrefixOf (b :: bs) || hasRun run bs

/-- The order of names: octet by octet, a shorter name before its extensions. -/
def le : Octets → Octets → Bool
  | [], _ => true
  | _ :: _, [] => false
  | a :: as, b :: bs => a < b || (a == b && le as bs)

end Octets

end SubordinateIds
