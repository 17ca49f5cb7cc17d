import SubordinateIds.Shell.Integer

/-
  Tests — what `test` and `[` say about words

  A test is a word that is not empty, a sign before a word, or a sign between two
  words; `!` turns it around, brackets hold it together, `-a` and `-o` join tests,
  `-a` more tightly. A word that looks like a sign before a word is a plain one if
  nothing follows it, or if a sign between two words does and has a word after it. A
  test with words left over is none.

  What files are like is asked of `probe`, by the letter of a sign and a path; `same`
  tells whether two paths lead to one file.
-/

namespace SubordinateIds.Shell

/-- What a test asks about files. -/
structure Probe where
  has : Char → String → Bool
  same : String → String → Bool

namespace Test

/-- What a sign between two words says of them, if it is such a sign. The outer
option tells whether it is one, the inner one whether the words suit it. No file is
newer than another. -/
def binary? (probe : Probe) (sign : String) : Option (String → String → Option Bool) :=
  let compare (holds : Int → Int → Bool) (a b : String) : Option Bool := do
    return holds (← integer? a) (← integer? b)
  match sign with
  | "=" => some fun a b => some (a == b)
  | "!=" => some fun a b => some (a != b)
  | "<" => some fun a b => some (a < b)
  | ">" => some fun a b => some (b < a)
  | "-eq" => some (compare (· == ·))
  | "-ne" => some (compare (· != ·))
  | "-lt" => some (compare (· < ·))
  | "-le" => some (compare (· ≤ ·))
  | "-gt" => some (compare (· > ·))
  | "-ge" => some (compare (· ≥ ·))
  | "-ef" => some fun a b => some (probe.same a b)
  | "-nt" | "-ot" => some fun _ _ => some false
  | _ => none

/-- What a sign before a word says of it, if it is such a sign; the inner option is
as for a sign between two. No stream is a terminal. -/
def unary? (probe : Probe) (sign : String) : Option (String → Option Bool) :=
  match sign.toList with
  | ['-', 'z'] => some fun a => some (a == "")
  | ['-', 'n'] => some fun a => some (a != "")
  | ['-', 't'] => some fun a => (integer? a).map fun _ => false
  | ['-', c] =>
    if "rwxefdcbpugkshLOGS".toList.elem c then some fun a => some (probe.has c a) else none
  | _ => none

mutual

/-- Reads one test that does not start with `!`: whether it holds, and the words
after it. -/
def single (probe : Probe) : Nat → List String → Option (Bool × List String)
  | 0, _ => none
  | fuel + 1, words =>
    match words with
    | [] => some (false, [])
    | [word] => some (word != "", [])
    | word :: next :: rest =>
      let isOpen := word = "("
      if isOpen && next = ")" then some (false, rest)
      else if isOpen then do
        let (holds, rest) ← joined probe fuel false true (next :: rest)
        if rest.head? = some ")" then some (holds, rest.tail) else none
      else
        match if (binary? probe next).isSome && !rest.isEmpty then none else unary? probe word with
        | some holds => do return (← holds next, rest)
        | none =>
          match binary? probe next, rest with
          | some holds, operand :: rest => do return (← holds word operand, rest)
          | some _, [] => none
          | none, rest => some (word != "", next :: rest)

/-- Reads one test. -/
def negatable (probe : Probe) : Nat → List String → Option (Bool × List String)
  | 0, _ => none
  | fuel + 1, "!" :: rest => do
    let (holds, rest) ← negatable probe fuel rest
    return (!holds, rest)
  | fuel + 1, words => single probe fuel words

/-- Reads tests joined by `-a` and `-o`. `any` tells whether one of the groups before
holds, and `all` whether every test of the group at hand does. -/
def joined (probe : Probe) : Nat → Bool → Bool → List String → Option (Bool × List String)
  | 0, _, _, _ => none
  | fuel + 1, any, all, words => do
    let (holds, rest) ← negatable probe fuel words
    match rest with
    | "-a" :: rest => joined probe fuel any (all && holds) rest
    | "-o" :: rest => joined probe fuel (any || (all && holds)) true rest
    | rest => return (any || (all && holds), rest)

end

/-- Reads a test that takes up all of the words. No test is read twice, and a test
has a word of its own or one that joins it. -/
def whole (probe : Probe) (words : List String) : Option Bool := do
  let (holds, rest) ← joined probe (3 * words.length + 4) false true words
  if rest.isEmpty then some holds else none

/-- Whether a test of three words holds, turned around if `negated`. A sign between
two words in the middle decides, whatever the first word looks like. A `!` in front
turns the test around, but never back. -/
def three (probe : Probe) (negated : Bool) (a sign b : String) : Option Bool :=
  match binary? probe sign with
  | some holds => (holds a b).map (· != negated)
  | none =>
    if a = "(" && b = ")" then (whole probe [sign]).map (· != negated)
    else if a = "!" then (whole probe [sign, b]).map not
    else (whole probe [a, sign, b]).map (· != negated)

/-- Whether a test holds, if it is one. -/
def holds? (probe : Probe) : List String → Option Bool
  | [] => some false
  | [a, sign, b] => three probe false a sign b
  | ["(", a, b, ")"] => whole probe [a, b]
  | ["!", a, sign, b] => three probe true a sign b
  | words => whole probe words

/-- The status of a test: 0 if it holds, 1 if not, and 2 if it is none. -/
def status (probe : Probe) (words : List String) : Nat :=
  match holds? probe words with
  | some true => 0
  | some false => 1
  | none => 2

end Test

end SubordinateIds.Shell
