import SubordinateIds.Shell.Integer

/-
  Fractions — numbers that need not be whole, as formats read and write them

  Such a number is kept in 53 binary digits: it is the nearest one to what was written,
  the even one if two are as near. It is written again by the digits of its exact value,
  which are rounded in the same way.
-/

namespace SubordinateIds.Shell

/-- How large a number is: binary digits that are shifted to the left or the right, more
than any number, or not known. -/
inductive Magnitude where
  | finite (digits : Nat) (shift : Int)
  | infinite
  | undefined
  deriving DecidableEq, Repr

/-- A number that need not be whole. -/
structure Fraction where
  negative : Bool
  size : Magnitude
  deriving DecidableEq, Repr

namespace Fraction

/-- A power of ten. -/
def tens (n : Nat) : Nat := Nat.pow 10 n

/-- The whole number next to a quotient, the even one if there are two. -/
def nearest (n d : Nat) : Nat :=
  let q := n / d
  let r := n % d
  if 2 * r < d || (2 * r = d && q % 2 = 0) then q else q + 1

/-- The quotient of two numbers after both were shifted against each other: to the left
for a shift that is positive. -/
def shifted (n d : Nat) (shift : Int) : Nat × Nat :=
  if shift ≥ 0 then (n <<< shift.toNat, d) else (n, d <<< (-shift).toNat)

/-- The quotient of two numbers after the first was multiplied by a power of ten. -/
def scaled (n d : Nat) (power : Int) : Nat × Nat :=
  if power ≥ 0 then (n * tens power.toNat, d) else (n, d * tens (-power).toNat)

/-- The magnitude next to a quotient, and whether it is in range: not too large, nor so
small that digits are lost. -/
def ofQuotient (n d : Nat) : Magnitude × Bool :=
  if n = 0 then (.finite 0 0, true)
  else
    let guess : Int := (n.log2 : Int) - d.log2 - 53
    let (a, b) := shifted n d (-guess)
    let shift := max (-1074) (if a / b < 1 <<< 53 then guess else guess + 1)
    let (a, b) := shifted n d (-shift)
    let digits := nearest a b
    if (digits.log2 : Int) + shift ≥ 1024 then (.infinite, false)
    else (.finite digits shift, shift > -1074 || digits.log2 ≥ 52 || a % b = 0)

/-- The exponent at the front of a text after one of two letters, and the text after it. -/
def exponentAhead (small capital : Char) (cs : List Char) : Int × List Char :=
  match cs with
  | [] => (0, cs)
  | c :: rest =>
    let negative := rest.head? = some '-'
    let rest := if negative || rest.head? = some '+' then rest.tail else rest
    let digits := rest.takeWhile Char.isDigit
    if (c = small || c = capital) && !digits.isEmpty then
      let n : Int := digitsValue 10 digits
      (if negative then -n else n, rest.drop digits.length)
    else (0, cs)

/-- The magnitude that digits in a base stand for, whether it is in range, and the text
after them. Every digit after the point counts for less by the base, and the exponent is
for another one. -/
def digitsAhead? (base exponentBase : Nat) (small capital : Char) (cs : List Char) :
    Option ((Magnitude × Bool) × List Char) :=
  let whole := cs.takeWhile (isDigitIn base)
  let rest := cs.drop whole.length
  let part := if rest.head? = some '.' then rest.tail.takeWhile (isDigitIn base) else []
  let rest := if rest.head? = some '.' then rest.drop (part.length + 1) else rest
  if whole.isEmpty && part.isEmpty then none
  else
    let (exponent, rest) := exponentAhead small capital rest
    let digits := digitsValue base (whole ++ part)
    let size : Int := (digits.log2 : Int) / (exponentBase.log2 + 1) + exponent
    let magnitude : Magnitude × Bool :=
      if digits = 0 then (.finite 0 0, true)
      else if size > 5000 + 4 * part.length then (.infinite, false)
      else if size < -5000 - 4 * part.length then (.finite 0 0, false)
      else
        let power := Nat.pow exponentBase exponent.natAbs
        let unit := Nat.pow base part.length
        if exponent ≥ 0 then ofQuotient (digits * power) unit
        else ofQuotient digits (unit * power)
    some (magnitude, rest)

/-- The text after a word in letters of any case, if that is at the front. -/
def after? (word : String) (cs : List Char) : Option (List Char) :=
  if (cs.take word.length).map Char.toLower = word.toList then some (cs.drop word.length) else none

/-- The number at the front of a text, whether it is in range, and the text after it. -/
def ahead? (cs : List Char) : Option (Fraction × Bool × List Char) :=
  let cs := cs.dropWhile isSpace
  let negative := cs.head? = some '-'
  let cs := if negative || cs.head? = some '+' then cs.tail else cs
  let plain := digitsAhead? 10 10 'e' 'E' cs
  let found : Option ((Magnitude × Bool) × List Char) :=
    match after? "inf" cs, after? "nan" cs, after? "0x" cs with
      | some rest, _, _ => some ((.infinite, true), (after? "inity" rest).getD rest)
      | _, some rest, _ =>
        let inside := (rest.drop 1).takeWhile fun c => c.isAlphanum || c = '_'
        let closed := rest.head? = some '(' && rest[inside.length + 1]? = some ')'
        some ((.undefined, true), if closed then rest.drop (inside.length + 2) else rest)
      | _, _, some rest => (digitsAhead? 16 2 'p' 'P' rest).orElse fun _ => plain
      | _, _, _ => plain
  found.map fun e => (⟨negative, e.1.1⟩, e.1.2, e.2)

/-- How many digits stand after the point, if it is for the format to say, and whether
digits and the point stay if they say nothing. -/
structure Style where
  precision : Option Nat
  full : Bool
  deriving DecidableEq, Repr

/-- The digits of a number, with a point before the last ones. A point with nothing after
it is left out unless it is to stay. -/
def pointed (full : Bool) (places n : Nat) : List Char :=
  let digits := Nat.toDigits 10 n
  let digits := List.replicate (places + 1 - digits.length) '0' ++ digits
  let whole := digits.take (digits.length - places)
  if places = 0 && !full then whole else whole ++ '.' :: digits.drop whole.length

/-- The quotient that a magnitude is. -/
def quotient (digits : Nat) (shift : Int) : Nat × Nat := shifted digits 1 shift

/-- A quotient with places after the point. -/
def fixed (full : Bool) (places n d : Nat) : List Char :=
  pointed full places (nearest (n * tens places) d)

/-- The power of ten of the first digit of a quotient that is rounded to a digit and so
many places after it, and all those digits as one number. -/
def leading (places n d : Nat) : Int × Nat :=
  if n = 0 then (0, 0)
  else
    let count (n : Nat) : Int := (Nat.toDigits 10 n).length
    let guess := count n - count d
    let (a, b) := scaled n d (-guess)
    let power := if a < b then guess - 1 else guess
    let (a, b) := scaled n d (places - power)
    let digits := nearest a b
    if digits ≥ tens (places + 1) then
      let (a, b) := scaled n d (places - power - 1)
      (power + 1, nearest a b)
    else (power, digits)

/-- An exponent with its sign, in two digits or more. -/
def exponentText (power : Int) : List Char :=
  let digits := Nat.toDigits 10 power.natAbs
  (if power < 0 then '-' else '+') :: (List.replicate (2 - digits.length) '0' ++ digits)

/-- A quotient with one digit before the point, and the power of ten that it is short
of. -/
def scientific (full : Bool) (places n d : Nat) : List Char :=
  let (power, digits) := leading places n d
  pointed full places digits ++ 'e' :: exponentText power

/-- Digits without zeros at their end after a point, nor a point at their end. -/
def withoutZeros (cs : List Char) : List Char :=
  if !cs.elem '.' then cs
  else
    let cs := cs.reverse.dropWhile (· == '0')
    (if cs.head? = some '.' then cs.tail else cs).reverse

/-- A quotient in the shorter of the two ways, with so many digits that count. -/
def general (full : Bool) (count n d : Nat) : List Char :=
  let count := max 1 count
  let (power, digits) := leading (count - 1) n d
  let tidy (cs : List Char) : List Char := if full then cs else withoutZeros cs
  if -4 ≤ power && power < count then
    tidy (fixed full ((count : Int) - 1 - power).toNat n d)
  else tidy (pointed full (count - 1) digits) ++ 'e' :: exponentText power

/-- A magnitude in hexadecimal digits, and the power of two that it is short of. -/
def hexadecimal (style : Style) (digits : Nat) (shift : Int) : List Char :=
  let whole := if digits = 0 then 0 else digits.log2
  let low := max (-1022) (shift + whole)
  let power : Int := if digits = 0 then 0 else low
  let up : Int := 52 + shift - low
  let (a, b) := shifted digits 1 (if digits = 0 then 0 else up)
  let all := a / b
  let places := style.precision.getD 13
  let (a, b) := shifted all 1 (4 * (places : Int) - 52)
  let n := nearest a b
  let text := Nat.toDigits 16 n
  let text := List.replicate (places + 1 - text.length) '0' ++ text
  let text := if places = 0 && !style.full then text
    else text.take (text.length - places) ++ '.' :: text.drop (text.length - places)
  let text := if style.precision.isSome then text
    else if style.full then text.reverse.dropWhile (· == '0') |>.reverse
    else withoutZeros text
  let exponent := (if power < 0 then '-' else '+') :: Nat.toDigits 10 power.natAbs
  text ++ 'p' :: exponent

/-- What is written of a number after its sign: what stands before the zeros that fill a
field, and the rest. Nothing fills a number that has no digits. -/
def text (letter : Char) (style : Style) (x : Fraction) : Option (List Char × List Char) :=
  match x.size with
  | .infinite => some (['i', 'n', 'f'], [])
  | .undefined => some (['n', 'a', 'n'], [])
  | .finite digits shift =>
    let (n, d) := quotient digits shift
    let places := style.precision.getD 6
    match letter with
    | 'f' => some ([], fixed style.full places n d)
    | 'e' => some ([], scientific style.full places n d)
    | 'g' => some ([], general style.full places n d)
    | 'a' => some (['0', 'x'], hexadecimal style digits shift)
    | _ => none

end Fraction

end SubordinateIds.Shell
