import SubordinateIds.Text.Blank

/-
  Decimals — unsigned 32-bit numbers read without leniency

  A number is one or more ASCII digits, any number of leading zeros included,
  with a value below 2 ^ 32. The digits are read from the left, and the first
  thing that goes wrong is the fault: a sign or a blank in front, a character
  that is no digit, or a value that has grown too large.

  Correspondence (program ↔ model):
    `NumberError`      ↔ `Fault`
    `parse_u32_strict` ↔ `read`
-/

namespace SubordinateIds

/-- Why a text is no unsigned 32-bit decimal. -/
inductive Decimal.Fault where
  | empty
  | signed (text : String)
  | leadingBlank (text : String)
  | notNumeric (text : String)
  | outOfRange (text : String)
  deriving DecidableEq, Repr

namespace Decimal

/-- The wording of a fault. -/
def Fault.message : Fault → String
  | .empty => "empty numeric value"
  | .signed text => s!"signed numeric value not allowed: {text}"
  | .leadingBlank text => s!"leading whitespace in numeric value: {text}"
  | .notNumeric text => s!"non-digit character in numeric value: {text}"
  | .outOfRange text => s!"numeric value out of range: {text}"

/-- Reads the digits that are left, with the value of those already read. -/
def readFrom (text : String) : Nat → List Char → Except Fault UInt32
  | value, [] => .ok (UInt32.ofNat value)
  | value, c :: cs =>
    if c.isDigit then
      let value := value * 10 + (c.toNat - '0'.toNat)
      if value < UInt32.size then readFrom text value cs else .error (.outOfRange text)
    else .error (.notNumeric text)

/-- Reads a whole text as an unsigned 32-bit decimal. -/
def read (text : String) : Except Fault UInt32 :=
  match text.toList with
  | [] => .error .empty
  | c :: cs =>
    if c = '-' || c = '+' then .error (.signed text)
    else if Text.isBlank c then .error (.leadingBlank text)
    else readFrom text 0 (c :: cs)

end Decimal

end SubordinateIds
