import SubordinateIds.Shell.Fraction

/-
  Formats — what `echo` and `printf` make of their words

  A backslash may stand for a character that is hard to write. In a format a percent
  sign asks for the next word, as a text, a number or a character; the format is used
  again while there are words left.
-/

namespace SubordinateIds.Shell.Format

/-- The character that a letter after a backslash stands for. -/
def letterEscape : Char → Option Char
  | '\\' => some '\\'
  | 'a' => some '\x07'
  | 'b' => some '\x08'
  | 'f' => some '\x0c'
  | 'n' => some '\n'
  | 'r' => some '\r'
  | 't' => some '\t'
  | 'v' => some '\x0b'
  | _ => none

/-- The character with an octal number, and the digits it has at the front of a text,
three at most. -/
def octal (cs : List Char) : Char × Nat :=
  let digits := (cs.take 3).takeWhile (isDigitIn 8)
  (Char.ofNat (digitsValue 8 digits % 256), digits.length)

/-- The text that a text with backslashes stands for, and whether it is the end of
all output. `skip` characters have been used up. With `zero` an octal number may have
a zero in front of it that does not count. -/
def unescape (zero : Bool) : Nat → List Char → List Char × Bool
  | _, [] => ([], false)
  | skip + 1, _ :: cs => unescape zero skip cs
  | 0, '\\' :: c :: cs =>
    if zero && c = 'c' then ([], true)
    else
      let (char, used) :=
        if zero && c = '0' then
          let (char, used) := octal cs
          (char, used + 1)
        else if isDigitIn 8 c then octal (c :: cs)
        else
          match letterEscape c with
          | some char => (char, 1)
          | none => ('\\', 0)
      let (text, ends) := unescape zero used (c :: cs)
      (char :: text, ends)
  | 0, c :: cs =>
    let (text, ends) := unescape zero 0 cs
    (c :: text, ends)

/-- The words of `echo`, and whether the end of the line is left out. -/
def echoFrom (line : Bool) : List String → List Char
  | [] => if line then ['\n'] else []
  | [word] =>
    let (text, ends) := unescape true 0 word.toList
    if ends || !line then text else text ++ ['\n']
  | word :: rest =>
    let (text, ends) := unescape true 0 word.toList
    if ends then text else text ++ ' ' :: echoFrom line rest

/-- What `echo` writes. -/
def echo (words : List String) : String :=
  String.ofList (if words.head? = some "-n" then echoFrom false words.tail else echoFrom true words)

/-- A place in a format that takes a word. -/
structure Field where
  left : Bool
  zero : Bool
  full : Bool
  sign : List Char
  width : Nat
  precision : Option Nat
  deriving DecidableEq, Repr

/-- A text filled up to the width of a field. -/
def Field.pad (f : Field) (text : List Char) : List Char :=
  let fill := List.replicate (f.width - text.length) ' '
  if f.left then text ++ fill else fill ++ text

/-- A number in a field, by its digits, with a sign and with what stands before them. -/
def Field.padNumber (f : Field) (sign lead digits : List Char) : List Char :=
  let sign := sign ++ lead
  let digits := if f.precision = some 0 && digits = ['0'] then [] else digits
  let fewest := match f.precision with
    | some n => n
    | none => if f.zero && !f.left then f.width - sign.length else 0
  f.pad (sign ++ List.replicate (fewest - digits.length) '0' ++ digits)

/-- The sign of a number. -/
def Field.signOf (f : Field) (negative : Bool) : List Char := if negative then ['-'] else f.sign

/-- A number that need not be whole in a field. -/
def Field.padFraction (f : Field) (letter : Char) (x : Fraction) : Option (List Char) := do
  let (lead, digits) ← x.text letter.toLower ⟨f.precision, f.full⟩
  let sign := f.signOf x.negative
  let fill := if f.zero && !f.left && !digits.isEmpty then
    f.width - (sign ++ lead ++ digits).length else 0
  let text := f.pad (sign ++ lead ++ List.replicate fill '0' ++ digits)
  return if letter.isUpper then text.map Char.toUpper else text

/-- The number that a word stands for in a format, and whether all of it is one that
fits into 64 bits; if it is too far away, the nearest one that fits counts. -/
def number (signed : Bool) (word : String) : Int × Bool :=
  match word.toList with
  | [] => (0, true)
  | '\'' :: cs | '"' :: cs => ((cs.headD '\x00').toNat, true)
  | cs =>
    match integerAhead? splitBase cs with
    | none => (0, false)
    | some (n, rest) =>
      let near : Int :=
        if signed then max (-9223372036854775808) (min n 9223372036854775807)
        else if n.natAbs < 18446744073709551616 then n
        else 18446744073709551615
      (near, n = near && rest.isEmpty)

/-- The number that need not be whole which a word stands for in a format, and whether all
of it is one that is in range. -/
def fraction (word : String) : Fraction × Bool :=
  match word.toList with
  | [] => (⟨false, .finite 0 0⟩, true)
  | '\'' :: cs | '"' :: cs => (⟨false, .finite (cs.headD '\x00').toNat 0⟩, true)
  | cs =>
    match Fraction.ahead? cs with
    | none => (⟨false, .finite 0 0⟩, false)
    | some (x, inRange, rest) => (x, inRange && rest.isEmpty)

/-- The digits of a number in a base. -/
def digits (base : Nat) (capital : Bool) (n : Nat) : List Char :=
  let ds := Nat.toDigits base n
  if capital then ds.map Char.toUpper else ds

/-- What a conversion makes of a word, whether the word suits it, and whether it is
the end of all output. Nothing comes of a letter that is no conversion. -/
def convert (f : Field) (letter : Char) (word : String) : Option (List Char × Bool × Bool) :=
  let cs := word.toList
  let (n, fine) := number (letter = 'd' || letter = 'i') word
  let unsigned := bits n
  match letter with
  | 's' => some (f.pad (cs.take (f.precision.getD cs.length)), true, false)
  | 'b' =>
    let (text, ends) := unescape true 0 cs
    some (f.pad (text.take (f.precision.getD text.length)), true, ends)
  | 'c' => some (f.pad [cs.headD '\x00'], true, false)
  | 'd' | 'i' => some (f.padNumber (f.signOf (n < 0)) [] (digits 10 false n.natAbs), fine, false)
  | 'u' => some (f.padNumber [] [] (digits 10 false unsigned), fine, false)
  | 'o' =>
    let ds := digits 8 false unsigned
    let lacks := f.full && ds.head? != some '0' && f.precision.all (· ≤ ds.length)
    some (f.padNumber [] [] (if lacks then '0' :: ds else ds), fine, false)
  | 'x' =>
    let lead := if f.full && unsigned != 0 then ['0', 'x'] else []
    some (f.padNumber [] lead (digits 16 false unsigned), fine, false)
  | 'X' =>
    let lead := if f.full && unsigned != 0 then ['0', 'X'] else []
    some (f.padNumber [] lead (digits 16 true unsigned), fine, false)
  | letter => do
    if !(['a', 'e', 'f', 'g'].elem letter.toLower) then none
    let (x, fine) := fraction word
    return (← f.padFraction letter x, fine, false)

/-- What was written so far, backwards, the words left, whether every word suited its
conversion, and whether a word was asked for. -/
structure Progress where
  text : List Char
  words : List String
  fine : Bool
  asked : Bool

/-- The number at the front of a format, or the next word for a star. -/
def size (p : Progress) (cs : List Char) : Nat × Progress × List Char :=
  match cs with
  | '*' :: cs =>
    ((number true (p.words.headD "")).1.toNat, { p with words := p.words.tail, asked := true }, cs)
  | cs =>
    let digits := cs.takeWhile Char.isDigit
    (digitsValue 10 digits, p, cs.drop digits.length)

/-- Writes by a format once. The inner result tells whether output ends there; there is
none if the format is wrong. -/
def once : Nat → Progress → List Char → Option (Progress × Bool)
  | 0, _, _ => none
  | _, p, [] => some (p, false)
  | fuel + 1, p, '%' :: '%' :: cs => once fuel { p with text := '%' :: p.text } cs
  | fuel + 1, p, '%' :: cs => do
    let isFlag (c : Char) : Bool := ['#', '-', '+', ' ', '0'].elem c
    let flags := cs.takeWhile isFlag
    let (width, p, cs) := size p (cs.dropWhile isFlag)
    let (precision, p, cs) := match cs with
      | '.' :: cs =>
        let (n, p, cs) := size p cs
        (some n, p, cs)
      | cs => (none, p, cs)
    let sign := if flags.elem '+' then ['+'] else if flags.elem ' ' then [' '] else []
    let field : Field :=
      ⟨flags.elem '-', flags.elem '0', flags.elem '#', sign, width, precision⟩
    let (text, fine, ends) ← convert field (← cs.head?) (p.words.headD "")
    let p := { p with
      text := text.reverse ++ p.text, words := p.words.tail, fine := p.fine && fine, asked := true }
    if ends then return (p, true) else once fuel p cs.tail
  | fuel + 1, p, '\\' :: c :: cs =>
    let (char, used) :=
      if isDigitIn 8 c then octal (c :: cs)
      else
        match letterEscape c with
        | some char => (char, 1)
        | none => ('\\', 0)
    once fuel { p with text := char :: p.text } ((c :: cs).drop used)
  | fuel + 1, p, c :: cs => once fuel { p with text := c :: p.text } cs

/-- Writes by a format until no words are left. -/
def repeated (format : List Char) : Nat → Progress → Option Progress
  | 0, p => some p
  | fuel + 1, p => do
    let (p, ends) ← once (format.length + 1) { p with asked := false } format
    if ends || p.words.isEmpty || !p.asked then return p
    repeated format fuel p

/-- What `printf` writes by a format, and whether every word suited its conversion. -/
def printf (format : String) (words : List String) : Option (String × Bool) := do
  let p ← repeated format.toList (words.length + 1) ⟨[], words, true, false⟩
  return (String.ofList p.text.reverse, p.fine)

end SubordinateIds.Shell.Format
