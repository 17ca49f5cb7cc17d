import SubordinateIds.Shell.Integer
import SubordinateIds.Shell.Script

/-
  Formulas — whole numbers, variables and the operators between them

  A formula is read from its text and then evaluated. What it assigns to variables
  is given back beside its value. Operands that an operator does not need are not
  evaluated, so nothing in them goes wrong and nothing in them is assigned.
-/

namespace SubordinateIds.Shell

/-- An operator between two numbers that needs both. -/
inductive Operator where
  | times | divide | remainder | plus | minus | shiftLeft | shiftRight
  | less | lessEqual | greater | greaterEqual | equal | unequal | bitAnd | bitXor | bitOr
  deriving DecidableEq, Repr

/-- What an operator makes of two numbers. Nothing may be divided by zero. -/
def Operator.apply (operator : Operator) (a b : Int) : Option Int :=
  let truth (p : Bool) : Option Int := some (if p then 1 else 0)
  match operator with
  | .times => some (wrap64 (a * b))
  | .divide => if b = 0 then none else some (wrap64 (a.tdiv b))
  | .remainder => if b = 0 then none else some (a.tmod b)
  | .plus => some (wrap64 (a + b))
  | .minus => some (wrap64 (a - b))
  | .shiftLeft => some (wrap64 (a * (1 <<< (bits b % 64) : Nat)))
  | .shiftRight => some (a >>> (bits b % 64))
  | .less => truth (a < b)
  | .lessEqual => truth (a ≤ b)
  | .greater => truth (a > b)
  | .greaterEqual => truth (a ≥ b)
  | .equal => truth (a == b)
  | .unequal => truth (a != b)
  | .bitAnd => some (wrap64 (bits a &&& bits b))
  | .bitXor => some (wrap64 (bits a ^^^ bits b))
  | .bitOr => some (wrap64 (bits a ||| bits b))

/-- A formula. -/
inductive Formula where
  | number (value : Int)
  | var (name : String)
  | negative (body : Formula)
  | complement (body : Formula)
  | denial (body : Formula)
  | binary (operator : Operator) (a b : Formula)
  | both (a b : Formula)
  | either (a b : Formula)
  | choice (condition yes no : Formula)
  | assign (name : String) (operator : Option Operator) (value : Formula)
  deriving DecidableEq, Repr

namespace Formula

/-- A token of a formula. -/
inductive Token where
  | number (value : Int)
  | name (name : String)
  | sign (text : String)
  deriving DecidableEq, Repr

/-- The signs that formulas are made of, the longer ones first. -/
def signs : List String := [
  "<<=", ">>=", "<<", ">>", "<=", ">=", "==", "!=", "&&", "||", "+=", "-=", "*=", "/=", "%=", "&=",
  "^=", "|=", "=", "+", "-", "*", "/", "%", "~", "!", "&", "|", "^", "<", ">", "?", ":", "(", ")"]

/-- The tokens of a text. -/
def tokens : Nat → List Char → Option (List Token)
  | 0, _ => none
  | fuel + 1, cs =>
    match cs with
    | [] => some []
    | c :: rest =>
      if isSpace c then tokens fuel rest
      else if c.isDigit then do
        let (base, digits) := splitBase cs
        let read := digits.takeWhile (isDigitIn base)
        let rest ← tokens fuel (digits.drop read.length)
        return .number (min (digitsValue base read) 9223372036854775807) :: rest
      else if startsName c then do
        let name := cs.takeWhile inName
        return .name (String.ofList name) :: (← tokens fuel (cs.drop name.length))
      else do
        let sign ← signs.find? fun sign => sign.toList.isPrefixOf cs
        return .sign sign :: (← tokens fuel (cs.drop sign.length))

/-- The operators between two numbers, by their rank: those of a higher rank bind
more tightly. -/
def operator? : String → Option (Nat × Operator)
  | "*" => some (10, .times)
  | "/" => some (10, .divide)
  | "%" => some (10, .remainder)
  | "+" => some (9, .plus)
  | "-" => some (9, .minus)
  | "<<" => some (8, .shiftLeft)
  | ">>" => some (8, .shiftRight)
  | "<" => some (7, .less)
  | "<=" => some (7, .lessEqual)
  | ">" => some (7, .greater)
  | ">=" => some (7, .greaterEqual)
  | "==" => some (6, .equal)
  | "!=" => some (6, .unequal)
  | "&" => some (5, .bitAnd)
  | "^" => some (4, .bitXor)
  | "|" => some (3, .bitOr)
  | _ => none

/-- The operator of an assignment, if the sign is one. -/
def assignment? : String → Option (Option Operator)
  | "=" => some none
  | "+=" => some (some .plus)
  | "-=" => some (some .minus)
  | "*=" => some (some .times)
  | "/=" => some (some .divide)
  | "%=" => some (some .remainder)
  | "<<=" => some (some .shiftLeft)
  | ">>=" => some (some .shiftRight)
  | "&=" => some (some .bitAnd)
  | "^=" => some (some .bitXor)
  | "|=" => some (some .bitOr)
  | _ => none

/-- Reads from the front of tokens, or cannot. -/
abbrev TokenReader := StateT (List Token) Option

mutual

/-- Reads a formula, or an assignment of one. -/
def whole : Nat → TokenReader Formula
  | 0 => failure
  | fuel + 1 => do
    match ← get with
    | .name name :: .sign sign :: rest =>
      match assignment? sign with
      | some operator =>
        set rest
        return .assign name operator (← whole fuel)
      | none => conditional fuel
    | _ => conditional fuel

/-- Reads a formula that may be a choice. -/
def conditional : Nat → TokenReader Formula
  | 0 => failure
  | fuel + 1 => do
    let condition ← disjunction fuel
    match ← get with
    | .sign "?" :: rest =>
      set rest
      let yes ← whole fuel
      guard ((← get).head? = some (.sign ":"))
      modify List.tail
      return .choice condition yes (← conditional fuel)
    | _ => return condition

/-- Reads formulas joined by `||`. -/
def disjunction : Nat → TokenReader Formula
  | 0 => failure
  | fuel + 1 => do
    let first ← conjunction fuel
    match ← get with
    | .sign "||" :: rest =>
      set rest
      return .either first (← disjunction fuel)
    | _ => return first

/-- Reads formulas joined by `&&`. -/
def conjunction : Nat → TokenReader Formula
  | 0 => failure
  | fuel + 1 => do
    let first ← operators fuel 3 (← operand fuel)
    match ← get with
    | .sign "&&" :: rest =>
      set rest
      return .both first (← conjunction fuel)
    | _ => return first

/-- Reads the operators of a rank or a higher one that follow an operand. -/
def operators : Nat → Nat → Formula → TokenReader Formula
  | 0, _, _ => failure
  | fuel + 1, rank, first => do
    match ← get with
    | .sign sign :: rest =>
      match operator? sign with
      | some (found, operator) =>
        if found < rank then return first
        else do
          set rest
          let second ← operators fuel (found + 1) (← operand fuel)
          operators fuel rank (.binary operator first second)
      | none => return first
    | _ => return first

/-- Reads an operand. -/
def operand : Nat → TokenReader Formula
  | 0 => failure
  | fuel + 1 => do
    match ← get with
    | .number value :: rest =>
      set rest
      return .number value
    | .name name :: rest =>
      set rest
      return .var name
    | .sign "(" :: rest =>
      set rest
      let formula ← whole fuel
      guard ((← get).head? = some (.sign ")"))
      modify List.tail
      return formula
    | .sign "-" :: rest =>
      set rest
      return .negative (← operand fuel)
    | .sign "+" :: rest =>
      set rest
      operand fuel
    | .sign "~" :: rest =>
      set rest
      return .complement (← operand fuel)
    | .sign "!" :: rest =>
      set rest
      return .denial (← operand fuel)
    | _ => failure

end

/-- Reads a text as a formula. -/
def read? (text : String) : Option Formula := do
  let cs := text.toList
  let tokens ← tokens (cs.length + 1) cs
  let (formula, rest) ← (whole (8 * tokens.length + 8)).run tokens
  if rest.isEmpty then some formula else none

/-- The value of a variable in a formula, by what was assigned to it in there, else by its
text: nothing counts as zero. -/
def lookUp (text : String → String) (assigned : List (String × Int)) (name : String) :
    Option Int :=
  match assigned.lookup name with
  | some value => some value
  | none => if (text name).toList.all isSpace then some 0 else basedInteger? (text name)

/-- The value of a formula. The state has what it assigned, the latest first. -/
def value (text : String → String) : Formula → StateT (List (String × Int)) Option Int
  | .number n => pure n
  | .var name => do
    match lookUp text (← get) name with
    | some n => return n
    | none => failure
  | .negative a => do return wrap64 (-(← value text a))
  | .complement a => do return wrap64 (-(← value text a) - 1)
  | .denial a => do return if (← value text a) = 0 then 1 else 0
  | .binary operator a b => do
    let a ← value text a
    let b ← value text b
    match operator.apply a b with
    | some n => return n
    | none => failure
  | .both a b => do
    if (← value text a) = 0 then return 0
    return if (← value text b) = 0 then 0 else 1
  | .either a b => do
    if (← value text a) ≠ 0 then return 1
    return if (← value text b) = 0 then 0 else 1
  | .choice condition yes no => do
    if (← value text condition) = 0 then value text no else value text yes
  | .assign name operator a => do
    let n ← value text a
    let n ← match operator with
      | none => pure n
      | some operator =>
        match (lookUp text (← get) name).bind fun old => operator.apply old n with
        | some n => pure n
        | none => failure
    modify ((name, n) :: ·)
    return n

end Formula

end SubordinateIds.Shell
