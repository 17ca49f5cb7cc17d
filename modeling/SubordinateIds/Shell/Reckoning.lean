import SubordinateIds.Shell.Expression
import SubordinateIds.Shell.Integer

/-
  Reckoning — what `expr` makes of its words

  Words are joined by signs: `|` and `&`, comparisons, sums, products and matches, in
  this order, the loosest first. A value is a text; where a number is asked for it has to
  be one. A value that is empty or zero counts as nothing.
-/

namespace SubordinateIds.Shell.Reckoning

/-- Whether a value is empty or zero. -/
def isNothing (value : String) : Bool :=
  let digits := if value.startsWith "-" then value.toList.tail else value.toList
  value = "" || (!digits.isEmpty && digits.all (· == '0'))

/-- The number that a value is. -/
def number? (value : String) : Option Int :=
  let negative := value.startsWith "-"
  let digits := if negative then value.toList.tail else value.toList
  if digits.isEmpty || !digits.all Char.isDigit then none
  else
    let n : Int := digitsValue 10 digits
    some (if negative then -n else n)

/-- The text of a truth. -/
def truth (holds : Bool) : String := if holds then "1" else "0"

/-- The parts of an expression before, in and after its first group. -/
def splitGroup : List Char → List Char → Option (List Char × List Char × List Char)
  | before, '\\' :: '(' :: rest => inside before.reverse [] 0 rest
  | before, '\\' :: c :: rest => splitGroup (c :: '\\' :: before) rest
  | before, c :: rest => splitGroup (c :: before) rest
  | _, [] => none
where
  /-- Reads the group, up to its end. -/
  inside (before group : List Char) (depth : Nat) :
      List Char → Option (List Char × List Char × List Char)
    | '\\' :: ')' :: rest =>
      match depth with
      | 0 => some (before, group.reverse, rest)
      | depth + 1 => inside before (')' :: '\\' :: group) depth rest
    | '\\' :: '(' :: rest => inside before ('(' :: '\\' :: group) (depth + 1) rest
    | c :: rest => inside before (c :: group) depth rest
    | [] => none

/-- What a match of a text with an expression comes to: the part that fits its first group,
or the length of the part that fits if it has no group. The part starts where the text
does. -/
def fit? (text pattern : String) : Option String := do
  let style : Expression.Style := ⟨false, false⟩
  let cs := text.toList.toArray
  let e ← Expression.read? style pattern.toList
  let stop := (e.ends cs 0).max?
  match splitGroup [] pattern.toList with
  | none => return toString (stop.getD 0)
  | some (before, group, after) =>
    let before ← Expression.read? style before
    let group ← Expression.read? style group
    let after ← Expression.read? style after
    let down (places : List Nat) : List Nat := places.mergeSort fun a b => b ≤ a
    let parts := (down (before.ends cs 0)).flatMap fun first =>
      (down (group.ends cs first)).filterMap fun last =>
        if stop.any (after.ends cs last).elem then some (first, last) else none
    match parts with
    | (first, last) :: _ => return String.ofList (cs.extract first last).toList
    | [] => return ""

/-- What a sign between two values comes to. -/
def outcome? (sign a b : String) : Option String :=
  let compare (holds : Ordering → Bool) : Option String :=
    match number? a, number? b with
    | some n, some m => some (truth (holds (Ord.compare n m)))
    | _, _ => some (truth (holds (Ord.compare a b)))
  let reckon (act : Int → Int → Option Int) : Option String := do
    return toString (← act (← number? a) (← number? b))
  match sign with
  | "|" => some (if !isNothing a then a else if isNothing b then "0" else b)
  | "&" => some (if isNothing a || isNothing b then "0" else a)
  | "=" | "==" => compare (· == .eq)
  | "!=" => compare (· != .eq)
  | "<" => compare (· == .lt)
  | "<=" => compare (· != .gt)
  | ">" => compare (· == .gt)
  | ">=" => compare (· != .lt)
  | "+" => reckon fun n m => some (n + m)
  | "-" => reckon fun n m => some (n - m)
  | "*" => reckon fun n m => some (n * m)
  | "/" => reckon fun n m => if m = 0 then none else some (n.tdiv m)
  | "%" => reckon fun n m => if m = 0 then none else some (n.tmod m)
  | ":" => fit? a b
  | _ => none

/-- How tightly a sign joins, the loosest first. -/
def level (sign : String) : Option Nat :=
  match sign with
  | "|" => some 0
  | "&" => some 1
  | "=" | "==" | "!=" | "<" | "<=" | ">" | ">=" => some 2
  | "+" | "-" => some 3
  | "*" | "/" | "%" => some 4
  | ":" => some 5
  | _ => none

mutual

/-- Reads a value that is not joined. -/
def single? : Nat → List String → Option (String × List String)
  | 0, _ => none
  | fuel + 1, words =>
    match words with
    | "(" :: rest => do
      let (value, rest) ← joined? fuel 0 rest
      if rest.head? = some ")" then some (value, rest.tail) else none
    | "+" :: word :: rest => some (word, rest)
    | "length" :: rest => do
      let (value, rest) ← single? fuel rest
      return (toString value.length, rest)
    | "match" :: rest => do
      let (text, rest) ← single? fuel rest
      let (pattern, rest) ← single? fuel rest
      return (← fit? text pattern, rest)
    | "index" :: rest => do
      let (text, rest) ← single? fuel rest
      let (members, rest) ← single? fuel rest
      let found := text.toList.findIdx? members.toList.elem
      return (toString ((found.map (· + 1)).getD 0), rest)
    | "substr" :: rest => do
      let (text, rest) ← single? fuel rest
      let (start, rest) ← single? fuel rest
      let (count, rest) ← single? fuel rest
      match number? start, number? count with
      | some start, some count =>
        if start ≤ 0 || count ≤ 0 then return ("", rest)
        else return (String.ofList ((text.toList.drop (start.toNat - 1)).take count.toNat), rest)
      | _, _ => return ("", rest)
    | ")" :: _ | [] => none
    | word :: rest => some (word, rest)

/-- Reads values that are joined as tightly as a level asks for. -/
def joined? : Nat → Nat → List String → Option (String × List String)
  | 0, _, _ => none
  | fuel + 1, least, words => do
    let (value, rest) ← if least ≥ 6 then single? fuel words else joined? fuel (least + 1) words
    more? fuel least value rest

/-- Reads what is joined to a value at a level. -/
def more? : Nat → Nat → String → List String → Option (String × List String)
  | 0, _, _, _ => none
  | fuel + 1, least, value, words =>
    match words with
    | sign :: rest =>
      if level sign = some least then do
        let (other, rest) ← joined? fuel (least + 1) rest
        more? fuel least (← outcome? sign value other) rest
      else some (value, words)
    | [] => some (value, [])

end

/-- The value of words. -/
def value? (words : List String) : Option String := do
  let (value, rest) ← joined? (10 * words.length + 20) 0 words
  if rest.isEmpty then some value else none

end SubordinateIds.Shell.Reckoning
