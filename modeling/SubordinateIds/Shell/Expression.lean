import SubordinateIds.Shell.Pattern

/-
  Expressions — regular ones, as the programs that look for lines read them

  An expression is read in one of two ways: in the basic one the signs for groups,
  choices and counts have a backslash in front of them, in the extended one they have
  none. It fits a part of a text, and where such a part may end is all that is asked.
-/

namespace SubordinateIds.Shell

/-- A regular expression. -/
inductive Expression where
  | empty
  | one (item : PatternItem)
  | start
  | finish
  | both (first second : Expression)
  | either (first second : Expression)
  | repeated (body : Expression) (least : Nat) (most : Option Nat)
  deriving DecidableEq, Repr

namespace Expression

/-- How an expression is read: in the extended way, and without regard to capitals. -/
structure Style where
  extended : Bool
  caseless : Bool
  deriving DecidableEq, Repr

/-- The character in the other case. -/
def otherCase (c : Char) : Char := if c.isUpper then c.toLower else c.toUpper

/-- The ranges of a set in which capitals do not count. -/
def widen (ranges : List (Char × Char)) : List (Char × Char) :=
  let letters := (List.range 26).map fun i => Char.ofNat (97 + i)
  let isIn (c : Char) : Bool := ranges.any fun r => r.1 ≤ c && c ≤ r.2
  ranges ++ letters.flatMap fun c =>
    (if isIn c then [(otherCase c, otherCase c)] else []) ++
      if isIn (otherCase c) then [(c, c)] else []

/-- The set that stands for a character. -/
def character (style : Style) (c : Char) : Expression :=
  if style.caseless && c.isAlpha then .one (.set false [(c, c), (otherCase c, otherCase c)])
  else .one (.one c)

/-- The signs of the two ways to read. -/
inductive Sign where
  | opening
  | closing
  | choice
  | count (least : Nat) (most : Option Nat)
  | braces
  deriving DecidableEq, Repr

/-- The sign at the front of a text, and the text after it. `first` tells that nothing is
there to be counted. -/
def sign? (style : Style) (first : Bool) (cs : List Char) : Option (Sign × List Char) :=
  let known (c : Char) : Option Sign :=
    match c with
    | '(' => some .opening
    | ')' => some .closing
    | '|' => some .choice
    | '+' => some (.count 1 none)
    | '?' => some (.count 0 (some 1))
    | '\x7b' => some .braces
    | _ => none
  match cs with
  | '*' :: rest => if first then none else some (.count 0 none, rest)
  | '\\' :: c :: rest => if style.extended then none else (known c).map fun sign => (sign, rest)
  | c :: rest => if style.extended then (known c).map fun sign => (sign, rest) else none
  | [] => none

/-- The counts in braces, and the text after them. -/
def counts? (style : Style) (cs : List Char) : Option (Nat × Option Nat × List Char) :=
  let number (cs : List Char) : Nat :=
    cs.foldl (fun n c => n * 10 + (c.toNat - '0'.toNat)) 0
  let least := cs.takeWhile Char.isDigit
  let rest := cs.drop least.length
  let most := if rest.head? = some ',' then rest.tail.takeWhile Char.isDigit else least
  let after := if rest.head? = some ',' then rest.drop (most.length + 1) else rest
  let close := if style.extended then ['\x7d'] else ['\\', '\x7d']
  if after.take close.length = close && !(least.isEmpty && rest.head? != some ',') then
    some (number least, if most.isEmpty then none else some (number most),
      after.drop close.length)
  else none

mutual

/-- Reads the choices of an expression. `depth` is the number of groups around them. -/
def choices? : Nat → Style → Nat → List Char → Option (Expression × List Char)
  | 0, _, _, _ => none
  | fuel + 1, style, depth, cs => do
    let (first, rest) ← items? fuel style depth true .empty cs
    match sign? style true rest with
    | some (.choice, rest) =>
      let (second, rest) ← choices? fuel style depth rest
      return (.either first second, rest)
    | _ => return (first, rest)

/-- Reads the items of one choice, behind those that were read before. -/
def items? :
    Nat → Style → Nat → Bool → Expression → List Char → Option (Expression × List Char)
  | 0, _, _, _, _, _ => none
  | fuel + 1, style, depth, first, before, cs =>
    match sign? style first cs, cs with
    | _, [] => some (before, [])
    | some (.choice, _), _ => some (before, cs)
    | some (.closing, rest), _ =>
      if depth > 0 then some (before, cs)
      else if style.extended then counted? fuel style depth before (character style ')') rest
      else none
    | some (.opening, rest), _ => do
      let (inner, rest) ← choices? fuel style (depth + 1) rest
      match sign? style true rest with
      | some (.closing, rest) => counted? fuel style depth before inner rest
      | _ => none
    | _, '.' :: rest => counted? fuel style depth before (.one .any) rest
    | _, '[' :: rest => do
      let negated := rest.head? = some '^'
      let members := (if negated then rest.tail else rest).map fun c => (c, true)
      let (ranges, rest) ← Pattern.ranges? (members.length + 1) true members
      let ranges := if style.caseless then widen ranges else ranges
      counted? fuel style depth before (.one (.set negated ranges)) (rest.map (·.1))
    | _, '^' :: rest =>
      if first || style.extended then items? fuel style depth true (.both before .start) rest
      else counted? fuel style depth before (character style '^') rest
    | _, '$' :: rest =>
      let isLast := rest.isEmpty || style.extended ||
        match sign? style true rest with
        | some (.closing, _) | some (.choice, _) => true
        | _ => false
      if isLast then items? fuel style depth first (.both before .finish) rest
      else counted? fuel style depth before (character style '$') rest
    | _, '\\' :: c :: rest => counted? fuel style depth before (character style c) rest
    | _, ['\\'] => none
    | _, c :: rest => counted? fuel style depth before (character style c) rest

/-- Reads the counts behind an item, and the items after it. -/
def counted? :
    Nat → Style → Nat → Expression → Expression → List Char →
      Option (Expression × List Char)
  | 0, _, _, _, _, _ => none
  | fuel + 1, style, depth, before, item, cs =>
    match sign? style false cs with
    | some (.count least most, rest) =>
      counted? fuel style depth before (.repeated item least most) rest
    | some (.braces, rest) =>
      match counts? style rest with
      | some (least, most, rest) =>
        counted? fuel style depth before (.repeated item least most) rest
      | none =>
        if style.extended then
          counted? fuel style depth (.both before item) (character style '\x7b') rest
        else none
    | _ => items? fuel style depth false (.both before item) cs

end

/-- Reads an expression. -/
def read? (style : Style) (text : List Char) : Option Expression := do
  let (expression, rest) ← choices? (4 * text.length + 8) style 0 text
  if rest.isEmpty then some expression else none

/-- The expression that fits a text alone. -/
def ofText (style : Style) (text : List Char) : Expression :=
  text.foldr (fun c rest => .both (character style c) rest) .empty

/-- Where the repetitions of a step may end, from places on: at least `least` of them, and
`more` at most after those. -/
def repeatedEnds (step : Nat → List Nat) : Nat → Nat → List Nat → List Nat
  | 0, 0, places => places
  | least + 1, more, places => repeatedEnds step least more ((places.flatMap step).eraseDups)
  | 0, more + 1, places =>
    let next := (places.flatMap step).filter fun place => !places.elem place
    if next.isEmpty then places
    else (places ++ repeatedEnds step 0 more next.eraseDups).eraseDups

/-- Where the parts of a text that start at a place and fit may end. -/
def ends (text : Array Char) : Expression → Nat → List Nat
  | .empty, place => [place]
  | .one item, place =>
    match text[place]? with
    | some c => if Pattern.itemFits item c then [place + 1] else []
    | none => []
  | .start, place => if place = 0 then [place] else []
  | .finish, place => if place = text.size then [place] else []
  | .both first second, place => ((ends text first place).flatMap (ends text second)).eraseDups
  | .either first second, place => (ends text first place ++ ends text second place).eraseDups
  | .repeated body least most, place =>
    let more := match most with
      | some most => most - least
      | none => text.size + 1
    repeatedEnds (ends text body) least more [place]

/-- The first part of a text, from a place on, that fits and passes a test, and of those
the longest: where it starts and where it ends. -/
def firstPart? (text : Array Char) (admits : Nat → Nat → Bool) (e : Expression) (place : Nat) :
    Option (Nat × Nat) :=
  ((List.range (text.size + 1)).drop place).findSome? fun start =>
    ((e.ends text start).filter (admits start)).max?.map fun stop => (start, stop)

end Expression

end SubordinateIds.Shell
