import SubordinateIds.Text.Blank
import SubordinateIds.Text.JsonString

/-
  JSON — objects, written and read back

  An object is written as its members, keys and values, in the order in which they are
  given. A layout says where white space stands between them. The members are texts, with
  escapes for what cannot stand in them, and words, which are numbers and truth values as
  they are spelled. Objects inside of others and arrays are not needed here.

  A JSON text is read in two steps. A machine walks over its characters, one at a time, and
  gives the marks between values, the texts with their escapes undone, and the words. Then
  an object is members between braces. The machine goes back and forth with what is written:
  each escaped character is read as the one it stands for (`Stands.tokensFrom`), so a text is
  read as itself (`tokens_encode`), and an object as its members (`read?_object`).
-/

namespace SubordinateIds.Json

/-- What a JSON text is made of. -/
inductive Token where
  | opens
  | closes
  | colon
  | comma
  | text (cs : List Char)
  | word (cs : List Char)
  deriving DecidableEq, Repr

/-- Where the machine stands between two characters: between tokens, in a word, in a text,
after a backslash, or in the digits of a code. What was read of a word or a text is kept
backwards. -/
inductive State where
  | between
  | word (got : List Char)
  | text (got : List Char)
  | escape (got : List Char)
  | code (got : List Char) (value more : Nat)

/-- Whether the character may stand between tokens and means nothing there. -/
def isSpace (c : Char) : Bool := c = ' ' || c = '\t' || c = '\n' || c = '\r'

/-- Whether the character may stand in a number or in the name of a truth value. -/
def isWord (c : Char) : Bool := c.isAlphanum || c = '+' || c = '-' || c = '.'

/-- The mark that a character is. -/
def mark? : Char → Option Token
  | '\x7b' => some .opens
  | '\x7d' => some .closes
  | ':' => some .colon
  | ',' => some .comma
  | _ => none

/-- The character that stands for another after a backslash, where it is not a code. -/
def unescape? : Char → Option Char
  | '"' => some '"'
  | '\\' => some '\\'
  | '/' => some '/'
  | 'b' => some '\x08'
  | 'f' => some '\x0c'
  | 'n' => some '\n'
  | 'r' => some '\r'
  | 't' => some '\t'
  | _ => none

/-- The value of a hexadecimal digit. -/
def hexValue? (c : Char) : Option Nat :=
  if '0' ≤ c ∧ c ≤ '9' then some (c.toNat - '0'.toNat)
  else if 'a' ≤ c ∧ c ≤ 'f' then some (c.toNat - 'a'.toNat + 10)
  else if 'A' ≤ c ∧ c ≤ 'F' then some (c.toNat - 'A'.toNat + 10)
  else none

/-- Reads a character between tokens. -/
def enter (c : Char) : Option (List Token × State) :=
  if isSpace c then some ([], .between)
  else if c = '"' then some ([], .text [])
  else if isWord c then some ([], .word [c])
  else (mark? c).map fun token => ([token], .between)

/-- Reads one character: the tokens that it ends, and where the machine stands after it.
There is no reading of characters that JSON does not allow where they stand. -/
def step : State → Char → Option (List Token × State)
  | .between, c => enter c
  | .word got, c =>
    if isWord c then some ([], .word (c :: got))
    else (enter c).map fun next => (.word got.reverse :: next.1, next.2)
  | .text got, c =>
    if c = '"' then some ([.text got.reverse], .between)
    else if c = '\\' then some ([], .escape got)
    else if c.toNat < 0x20 then none
    else some ([], .text (c :: got))
  | .escape got, c =>
    if c = 'u' then some ([], .code got 0 3)
    else (unescape? c).map fun d => ([], .text (d :: got))
  | .code got value more, c =>
    match hexValue? c, more with
    | none, _ => none
    | some digit, 0 =>
      let value := value * 16 + digit
      if value.isValidChar then some ([], .text (Char.ofNat value :: got)) else none
    | some digit, more + 1 => some ([], .code got (value * 16 + digit) more)

/-- The tokens of a text, from a state on. A text or an escape that is broken off by the end
has none. -/
def tokensFrom : State → List Char → Option (List Token)
  | .between, [] => some []
  | .word got, [] => some [.word got.reverse]
  | _, [] => none
  | s, c :: cs => (step s c).bind fun next => (tokensFrom next.2 cs).map (next.1 ++ ·)

/-- A value that is not made of others: a text, or a number or truth value as it is
spelled. -/
inductive Value where
  | text (text : String)
  | word (spelled : String)
  deriving DecidableEq, Repr

/-- The value that a token is. -/
def value? : Token → Option Value
  | .text cs => some (.text (String.ofList cs))
  | .word cs => some (.word (String.ofList cs))
  | _ => none

/-- The members up to the closing brace, which is the last token. -/
def members? : List Token → Option (List (String × Value))
  | .text key :: .colon :: token :: .comma :: rest =>
    (value? token).bind fun value => (members? rest).map ((String.ofList key, value) :: ·)
  | [.text key, .colon, token, .closes] =>
    (value? token).map fun value => [(String.ofList key, value)]
  | _ => none

/-- The members of the object that the tokens are, in the order in which they stand. -/
def object? : List Token → Option (List (String × Value))
  | [.opens, .closes] => some []
  | .opens :: rest => members? rest
  | _ => none

/-- The members of the object that a text is. -/
def read? (text : String) : Option (List (String × Value)) :=
  (tokensFrom .between text.toList).bind object?

/-! ## Writing -/

/-- Where white space stands in an object: around its members, which may begin new lines, in
front of each of them, and behind their colons. -/
structure Layout where
  newline : List Char
  indent : List Char
  gap : List Char
  blank : ∀ c ∈ newline ++ indent ++ gap, isSpace c = true

namespace Layout

/-- The layout without white space. -/
def compact : Layout := ⟨[], [], [], by simp⟩

/-- The layout with a line for each member. -/
def pretty : Layout := ⟨['\n'], [' ', ' '], [' '], by simp [isSpace]⟩

variable (layout : Layout) {c : Char}

theorem isSpace_newline (mem : c ∈ layout.newline) : isSpace c = true := by
  apply layout.blank
  simp [mem]

theorem isSpace_indent (mem : c ∈ layout.indent) : isSpace c = true := by
  apply layout.blank
  simp [mem]

theorem isSpace_gap (mem : c ∈ layout.gap) : isSpace c = true := by
  apply layout.blank
  simp [mem]

end Layout

/-- The characters of a value. -/
def Value.chars : Value → List Char
  | .text value => (JsonString.encode value).toList
  | .word spelled => spelled.toList

/-- The token that a value is. -/
def Value.token : Value → Token
  | .text value => .text value.toList
  | .word spelled => .word spelled.toList

/-- The value is not a word without letters, or with others than those of words. -/
def Value.Sound : Value → Prop
  | .text _ => True
  | .word spelled => spelled.toList ≠ [] ∧ ∀ c ∈ spelled.toList, isWord c = true

/-- A key and its value. -/
def memberChars (layout : Layout) (member : String × Value) : List Char :=
  layout.indent ++ (JsonString.encode member.1).toList ++ ':' :: layout.gap ++ member.2.chars

/-- The members of an object, up to its end. -/
def membersChars (layout : Layout) (members : List (String × Value)) : List Char :=
  (',' :: layout.newline).intercalate (members.map (memberChars layout)) ++
    layout.newline ++ ['\x7d']

/-- An object that has these members. -/
def object (layout : Layout) (members : List (String × Value)) : String :=
  String.ofList ('\x7b' :: layout.newline ++ membersChars layout members)

/-! ## The machine -/

variable {c : Char} {cs got : List Char}

theorem tokensFrom_cons (s : State) (c : Char) (cs : List Char) :
    tokensFrom s (c :: cs) =
      (step s c).bind fun next => (tokensFrom next.2 cs).map (next.1 ++ ·) := by
  cases s <;> rfl

theorem tokens_space (space : isSpace c = true) :
    tokensFrom .between (c :: cs) = tokensFrom .between cs := by
  simp [tokensFrom_cons, step, enter, space]

theorem tokens_spaces (space : ∀ c ∈ cs, isSpace c = true) (rest : List Char) :
    tokensFrom .between (cs ++ rest) = tokensFrom .between rest := by
  induction cs with
  | nil => rfl
  | cons c cs ih =>
    obtain ⟨first, others⟩ := List.forall_mem_cons.mp space
    rw [List.cons_append, tokens_space first, ih others]

theorem tokens_mark {token : Token} (mark : mark? c = some token) :
    tokensFrom .between (c :: cs) = (tokensFrom .between cs).map (token :: ·) := by
  -- no mark can begin anything else
  have alone : isSpace c = false ∧ c ≠ '"' ∧ isWord c = false := by
    unfold mark? at mark
    split at mark <;> cases mark <;> decide
  obtain ⟨space, quote, word⟩ := alone
  simp [tokensFrom_cons, step, enter, space, quote, word, mark]

/-- What is read up to the closing brace is the object. -/
theorem object?_opens {tokens : List Token} {members : List (String × Value)}
    (read : members? tokens = some members) : object? (.opens :: tokens) = some members := by
  have more : tokens ≠ [.closes] := by
    rintro rfl
    cases read
  rw [object?]
  · exact read
  · simpa using more

/-! ## Texts -/

theorem hexValue?_hexDigit : ∀ n < 16, hexValue? (JsonString.hexDigit n) = some n := by decide

/-- The three ways in which a character stands in a written text: by another one after a
backslash, by its code, and as itself. -/
inductive Stands (c : Char) : List Char → Prop where
  | short {d : Char} (means : unescape? d = some c) : Stands c ['\\', d]
  | code (small : c.toNat < 0x20) : Stands c ['\\', 'u', '0', '0',
      JsonString.hexDigit (c.toNat / 16), JsonString.hexDigit (c.toNat % 16)]
  | plain (quote : c ≠ '"') (backslash : c ≠ '\\') (large : 0x20 ≤ c.toNat) : Stands c [c]

theorem stands_escape (c : Char) : Stands c (JsonString.escape c) := by
  unfold JsonString.escape
  iterate 7
    split
    · rename_i same
      exact .short (by rw [same]; rfl)
  split
  · rename_i small
    exact .code small
  · rename_i quote backslash _ _ _ _ _ large
    exact .plain quote backslash (Nat.not_lt.mp large)

namespace Stands

variable {written : List Char}

theorem tokensFrom (h : Stands c written) (got cs : List Char) :
    tokensFrom (.text got) (written ++ cs) = tokensFrom (.text (c :: got)) cs := by
  cases h with
  | @short d means =>
    have noCode : d ≠ 'u' := by
      rintro rfl
      cases means
    simp [tokensFrom_cons, step, noCode, means, Function.comp_def]
  | code small =>
    have zero : hexValue? '0' = some 0 := rfl
    have high := hexValue?_hexDigit (c.toNat / 16) (by omega)
    have low := hexValue?_hexDigit (c.toNat % 16) (by omega)
    have value : c.toNat / 16 * 16 + c.toNat % 16 = c.toNat := by omega
    have valid : c.toNat.isValidChar := .inl (by omega)
    simp [tokensFrom_cons, step, zero, high, low, value, valid, Function.comp_def]
  | plain quote backslash large =>
    simp [tokensFrom_cons, step, quote, backslash, Nat.not_lt.mpr large]

theorem le_hexDigit : ∀ n < 16, 0x20 ≤ (JsonString.hexDigit n).toNat := by decide

theorem le_toNat (h : Stands c written) : ∀ d ∈ written, 0x20 ≤ d.toNat := by
  cases h with
  | @short d means =>
    have shown : 0x20 ≤ d.toNat := by
      unfold unescape? at means
      split at means <;> first | decide | cases means
    simp [shown]
  | code small =>
    have high := le_hexDigit (c.toNat / 16) (by omega)
    have low := le_hexDigit (c.toNat % 16) (by omega)
    simp [high, low]
  | plain quote backslash large => simp [large]

end Stands

theorem tokensFrom_escaped (text got cs : List Char) :
    tokensFrom (.text got) (text.flatMap JsonString.escape ++ cs) =
      tokensFrom (.text (text.reverse ++ got)) cs := by
  induction text generalizing got with
  | nil => rfl
  | cons c text ih =>
    rw [List.flatMap_cons, List.append_assoc, (stands_escape c).tokensFrom, ih,
      List.reverse_cons, List.append_assoc, List.singleton_append]

theorem toList_encode (text : String) :
    (JsonString.encode text).toList = '"' :: text.toList.flatMap JsonString.escape ++ ['"'] := by
  simp [JsonString.encode, String.toList_append]

theorem tokens_encode (text : String) (cs : List Char) :
    tokensFrom .between ((JsonString.encode text).toList ++ cs) =
      (tokensFrom .between cs).map (.text text.toList :: ·) := by
  have enters : enter '"' = some ([], .text []) := rfl
  have leaves : step (.text text.toList.reverse) '"' = some ([.text text.toList], .between) := by
    simp [step]
  rw [toList_encode, List.append_assoc, List.cons_append, tokensFrom_cons, step, enters]
  simp only [Option.bind_some, List.nil_append, Option.map_id', tokensFrom_escaped,
    List.append_nil, List.singleton_append, tokensFrom_cons _ '"', leaves]

theorem le_of_mem_encode {text : String} (mem : c ∈ (JsonString.encode text).toList) :
    0x20 ≤ c.toNat := by
  rw [toList_encode, List.mem_append, List.mem_cons, List.mem_flatMap, List.mem_singleton] at mem
  obtain (rfl | ⟨d, -, mem⟩) | rfl := mem
  · decide
  · exact (stands_escape d).le_toNat c mem
  · decide

/-! ## Words -/

theorem isWord_of_isSpace (space : isSpace c = true) : isWord c = false := by
  simp only [isSpace, Bool.or_eq_true, decide_eq_true_eq] at space
  obtain ((rfl | rfl) | rfl) | rfl := space <;> rfl

theorem enter_word (word : isWord c = true) : enter c = some ([], .word [c]) := by
  have space : isSpace c = false := by
    rw [Bool.eq_false_iff]
    intro space
    exact absurd (isWord_of_isSpace space) (by simp [word])
  have quote : c ≠ '"' := by
    rintro rfl
    exact absurd word (by decide)
  simp [enter, space, quote, word]

theorem isWord_of_isDigit (digit : c.isDigit = true) : isWord c = true := by
  simp [isWord, Char.isAlphanum, digit]

theorem toNat_of_isWord (word : isWord c = true) : 0x20 < c.toNat ∧ c.toNat < 0x7f := by
  have spelled : isWord c =
      ((decide (65 ≤ c.val ∧ c.val ≤ 90) || (decide (97 ≤ c.val) && decide (c.val ≤ 122)) ||
        c.isDigit) || c = '+' || c = '-' || c = '.') := rfl
  rw [spelled] at word
  simp only [Bool.or_eq_true, Bool.and_eq_true, decide_eq_true_eq, UInt32.le_iff_toNat_le] at word
  obtain ((((upper | lower) | digit) | rfl) | rfl) | rfl := word
  · have upper : 65 ≤ c.toNat ∧ c.toNat ≤ 90 := upper
    omega
  · have lower : 97 ≤ c.toNat ∧ c.toNat ≤ 122 := lower
    omega
  · have digit : 48 ≤ c.toNat ∧ c.toNat ≤ 57 := Char.isDigit_iff_toNat.mp digit
    omega
  all_goals decide

theorem isBlank_of_isWord (word : isWord c = true) : Text.isBlank c = false := by
  obtain ⟨low, high⟩ := toNat_of_isWord word
  simp only [Text.isBlank, Bool.or_eq_false_iff, Bool.and_eq_false_iff, decide_eq_false_iff_not,
    beq_eq_false_iff_ne]
  omega

theorem tokensFrom_word (word : ∀ d ∈ cs, isWord d = true) (got rest : List Char) :
    tokensFrom (.word got) (cs ++ rest) = tokensFrom (.word (cs.reverse ++ got)) rest := by
  induction cs generalizing got with
  | nil => rfl
  | cons d cs ih =>
    obtain ⟨first, others⟩ := List.forall_mem_cons.mp word
    simp [tokensFrom_cons, step, first, ih others]

/-- No word goes on in this text. -/
def Ends (cs : List Char) : Prop := ∃ c rest, cs = c :: rest ∧ isWord c = false

theorem tokens_word {word : List Char} (filled : word ≠ [])
    (letters : ∀ d ∈ word, isWord d = true) (ends : Ends cs) :
    tokensFrom .between (word ++ cs) = (tokensFrom .between cs).map (.word word :: ·) := by
  obtain ⟨c, more, rfl⟩ := List.exists_cons_of_ne_nil filled
  obtain ⟨d, rest, rfl, other⟩ := ends
  obtain ⟨first, others⟩ := List.forall_mem_cons.mp letters
  rw [List.cons_append, tokensFrom_cons, step, enter_word first]
  simp only [Option.bind_some, List.nil_append, Option.map_id', tokensFrom_word others,
    tokensFrom_cons _ d, step, other, Bool.false_eq_true, if_false]
  cases enter d <;> simp [Option.map_map, Function.comp_def]

/-! ## Objects -/

variable {layout : Layout} {members : List (String × Value)}

theorem value?_token (value : Value) : value? value.token = some value := by
  cases value <;> simp [Value.token, value?]

theorem tokens_value {value : Value} (sound : value.Sound) (ends : Ends cs) :
    tokensFrom .between (value.chars ++ cs) = (tokensFrom .between cs).map (value.token :: ·) := by
  cases value with
  | text text => exact tokens_encode text cs
  | word spelled => exact tokens_word sound.1 sound.2 ends

theorem tokens_member {member : String × Value} (sound : member.2.Sound) (ends : Ends cs) :
    tokensFrom .between (memberChars layout member ++ cs) =
      (tokensFrom .between cs).map ([.text member.1.toList, .colon, member.2.token] ++ ·) := by
  have colon : mark? ':' = some .colon := rfl
  rw [memberChars, List.append_assoc, List.append_assoc, List.append_assoc,
    tokens_spaces (fun c => layout.isSpace_indent), tokens_encode, List.cons_append,
    tokens_mark colon, tokens_spaces (fun c => layout.isSpace_gap), tokens_value sound ends,
    Option.map_map, Option.map_map]
  rfl

theorem ends_closing (layout : Layout) : Ends (layout.newline ++ ['\x7d']) := by
  cases newline : layout.newline with
  | nil => exact ⟨_, _, rfl, rfl⟩
  | cons c rest =>
    have space : isSpace c = true := layout.isSpace_newline (by simp [newline])
    exact ⟨c, _, rfl, isWord_of_isSpace space⟩

theorem membersChars_singleton (layout : Layout) (member : String × Value) :
    membersChars layout [member] = memberChars layout member ++ (layout.newline ++ ['\x7d']) := by
  simp [membersChars]

theorem membersChars_cons_cons (layout : Layout) (member next : String × Value)
    (members : List (String × Value)) :
    membersChars layout (member :: next :: members) = memberChars layout member ++
      ',' :: (layout.newline ++ membersChars layout (next :: members)) := by
  simp [membersChars, List.intercalate_cons_cons]

theorem members?_membersChars (layout : Layout) (member : String × Value)
    (members : List (String × Value)) (sound : ∀ m ∈ member :: members, m.2.Sound) :
    (tokensFrom .between (membersChars layout (member :: members))).bind members? =
      some (member :: members) := by
  induction members generalizing member with
  | nil =>
    have closing : tokensFrom .between (layout.newline ++ ['\x7d']) = some [.closes] :=
      tokens_spaces (fun c => layout.isSpace_newline) _
    rw [membersChars_singleton, tokens_member (sound member (by simp)) (ends_closing layout), closing]
    simp [members?, value?_token]
  | cons next members ih =>
    have comma : mark? ',' = some .comma := rfl
    have ends (rest : List Char) : Ends (',' :: rest) := ⟨_, _, rfl, rfl⟩
    obtain ⟨first, others⟩ := List.forall_mem_cons.mp sound
    obtain ⟨tokens, more, read⟩ := Option.bind_eq_some_iff.mp (ih next others)
    rw [membersChars_cons_cons, tokens_member first (ends _), tokens_mark comma,
      tokens_spaces (fun c => layout.isSpace_newline), more]
    simp [members?, value?_token, read]

theorem read?_object (layout : Layout) (sound : ∀ m ∈ members, m.2.Sound) :
    read? (object layout members) = some members := by
  have opening : mark? '\x7b' = some .opens := rfl
  rw [read?, object, String.toList_ofList, List.cons_append, tokens_mark opening,
    tokens_spaces (fun c => layout.isSpace_newline)]
  cases members with
  | nil =>
    have closing : tokensFrom .between (membersChars layout []) = some [.closes] :=
      tokens_spaces (fun c => layout.isSpace_newline) _
    rw [closing]
    rfl
  | cons member members =>
    obtain ⟨tokens, more, read⟩ :=
      Option.bind_eq_some_iff.mp (members?_membersChars layout member members sound)
    rw [more]
    exact object?_opens read

/-! ## What an object is written with -/

theorem Value.Sound.le_toNat {value : Value} (sound : value.Sound) (mem : c ∈ value.chars) :
    0x20 ≤ c.toNat := by
  cases value with
  | text => exact le_of_mem_encode mem
  | word =>
    obtain ⟨shown, -⟩ := toNat_of_isWord (sound.2 c mem)
    omega

theorem le_of_mem_memberChars {member : String × Value} (sound : member.2.Sound)
    (mem : c ∈ memberChars .compact member) : 0x20 ≤ c.toNat := by
  have split : memberChars .compact member =
      (JsonString.encode member.1).toList ++ ':' :: member.2.chars := by
    simp [memberChars, Layout.compact]
  rw [split, List.mem_append, List.mem_cons] at mem
  obtain mem | rfl | mem := mem
  · exact le_of_mem_encode mem
  · decide
  · exact sound.le_toNat mem

theorem le_of_mem_membersChars (sound : ∀ m ∈ members, m.2.Sound)
    (mem : c ∈ membersChars .compact members) : 0x20 ≤ c.toNat := by
  have closing {c : Char} (mem : c ∈ ['\x7d']) : 0x20 ≤ c.toNat := by
    rw [List.mem_singleton.mp mem]
    decide
  induction members with
  | nil => exact closing mem
  | cons member members ih =>
    obtain ⟨first, others⟩ := List.forall_mem_cons.mp sound
    cases members with
    | nil =>
      rw [membersChars_singleton, List.mem_append] at mem
      obtain mem | mem := mem
      · exact le_of_mem_memberChars first mem
      · exact closing mem
    | cons next members =>
      rw [membersChars_cons_cons, List.mem_append, List.mem_cons] at mem
      obtain mem | rfl | mem := mem
      · exact le_of_mem_memberChars first mem
      · decide
      · exact ih others mem

theorem le_of_mem_compact (sound : ∀ m ∈ members, m.2.Sound)
    (mem : c ∈ (object .compact members).toList) : 0x20 ≤ c.toNat := by
  rw [object, String.toList_ofList, List.cons_append, List.mem_cons] at mem
  obtain rfl | mem := mem
  · decide
  · exact le_of_mem_membersChars sound mem

end SubordinateIds.Json
