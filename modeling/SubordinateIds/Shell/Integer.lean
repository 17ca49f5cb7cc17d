/-
  Integers — numbers as the commands of the shell read and write them

  Blanks may stand around a number and one sign in front of it. The value has to fit
  into 64 bits. In sums a number may also be octal, hexadecimal or binary, and what a sum
  comes to wraps around at 64 bits.
-/

namespace SubordinateIds.Shell

/-- Whether the character is a blank between or around numbers. -/
def isSpace (c : Char) : Bool := c = ' ' || ('\t' ≤ c && c ≤ '\r')

/-- The value of a digit, in bases up to 16. -/
def digitValue (c : Char) : Nat :=
  if c.isDigit then c.toNat - '0'.toNat else c.toLower.toNat - 'a'.toNat + 10

/-- Whether the character is a digit in a base up to 16. -/
def isDigitIn (base : Nat) (c : Char) : Bool := c.isAlphanum && digitValue c < base

/-- The value of digits in a base. -/
def digitsValue (base : Nat) (digits : List Char) : Nat :=
  digits.foldl (fun value c => value * base + digitValue c) 0

/-- The base of a number that is written with its base in front, and its digits. -/
def splitBase : List Char → Nat × List Char
  | '0' :: 'x' :: c :: cs | '0' :: 'X' :: c :: cs =>
    if isDigitIn 16 c then (16, c :: cs) else (8, '0' :: 'x' :: c :: cs)
  | '0' :: 'b' :: c :: cs | '0' :: 'B' :: c :: cs =>
    if isDigitIn 2 c then (2, c :: cs) else (8, '0' :: 'b' :: c :: cs)
  | '0' :: cs => (8, '0' :: cs)
  | cs => (10, cs)

/-- Whether the value fits into 64 bits. -/
def fits64 (value : Int) : Bool := -9223372036854775808 ≤ value && value ≤ 9223372036854775807

/-- The value modulo 2 ^ 64 that fits into 64 bits. -/
def wrap64 (value : Int) : Int :=
  (value + 9223372036854775808) % 18446744073709551616 - 9223372036854775808

/-- The bits of a number as a natural one below 2 ^ 64. -/
def bits (n : Int) : Nat := (n % 18446744073709551616).toNat

/-- The integer at the front of a text and the text after it, with `split` to find the
base of its digits. -/
def integerAhead? (split : List Char → Nat × List Char) (text : List Char) :
    Option (Int × List Char) :=
  let cs := text.dropWhile isSpace
  let negative := cs.head? = some '-'
  let (base, cs) := split (if negative || cs.head? = some '+' then cs.tail else cs)
  let digits := cs.takeWhile (isDigitIn base)
  let value : Int := if negative then -digitsValue base digits else digitsValue base digits
  if digits.isEmpty then none else some (value, cs.drop digits.length)

/-- The integer that a text spells, with `split` to find the base of its digits. -/
def integerBy? (split : List Char → Nat × List Char) (text : String) : Option Int := do
  let (value, rest) ← integerAhead? split text.toList
  if rest.all isSpace && fits64 value then some value else none

/-- The integer that a text spells in decimal. -/
def integer? (text : String) : Option Int := integerBy? (fun cs => (10, cs)) text

/-- The integer that a text spells in one of the bases. -/
def basedInteger? (text : String) : Option Int := integerBy? splitBase text

/-- The number that a text spells, if it may be a status or a count. -/
def count? (text : String) : Option Nat :=
  (integer? text).bind fun n => if 0 ≤ n && n ≤ 2147483647 then some n.toNat else none

end SubordinateIds.Shell
