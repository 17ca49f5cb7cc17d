import SubordinateIds.Configuration.Line
import SubordinateIds.Proofs.Text.Blank
import SubordinateIds.Proofs.Text.Decimal
import SubordinateIds.Proofs.Text.Utf8

/-
  Lines — which settings the octets of a line stand for

  A line is described here without the steps that read it. `Pair` says of a text that it
  is a key, blanks and a value, and `Offers` says of octets that they are not too many and
  hold such a text before their first `#`. `Setting.Reads` says which value a text stands
  for at a key. A line gives a setting exactly if it offers a key and a value that
  stand for it (`setting?_ofOctets_eq_some_iff`).
-/

namespace SubordinateIds

/-! ## Settings -/

/-- The text stands for a number that the key can hold: digits of a value that is a 32-bit
number, and not above the largest block if it is the size of a block. -/
def NumberKey.Reads (key : NumberKey) (value : String) (n : UInt32) : Prop :=
  value.toList ≠ [] ∧ (∀ c ∈ value.toList, c.isDigit = true) ∧
    Nat.ofDigitChars 10 value.toList 0 = n.toNat ∧ (key.isCount = true → n.toNat ≤ 67108864)

/-- The text is one of the words for a position of a switch, in letters of any case. -/
def Switch.Says (value : String) (on : Bool) : Prop :=
  value.toList.map Char.toLower ∈
    (if on then ["yes", "true", "1"] else ["no", "false", "0"]).map String.toList

theorem Switch.read?_eq_some_iff {value : String} {on : Bool} :
    Switch.read? value = some on ↔ Switch.Says value on := by
  unfold read? Says
  generalize value.toList.map Char.toLower = letters
  constructor
  · intro h
    split at h <;> cases h <;> decide
  · intro h
    cases on <;> simp only [Bool.false_eq_true, if_true, if_false, List.map_cons, List.map_nil,
      List.mem_cons, List.not_mem_nil, or_false] at h <;> rcases h with rfl | rfl | rfl <;> rfl

namespace Setting

theorem toNat_countLimit : countLimit.toNat = 67108864 := rfl

theorem read_number_iff {key value : String} {k : NumberKey} {n : UInt32} :
    read key value = .ok (some (.number k n)) ↔ k.spelling = key ∧ k.Reads value n := by
  unfold read
  constructor
  · intro h
    split at h
    · cases h
    · cases h
    · rename_i k' found
      split at h
      · cases h
      · rename_i n' decimal
        split at h
        · cases h
        · rename_i small
          cases h
          obtain ⟨filled, digits, sum⟩ := Decimal.read_eq_ok_iff.mp decimal
          refine ⟨Key.read?_eq_some_iff.mp found, filled, digits, sum, ?_⟩
          intro count
          rw [count, Bool.true_and, decide_eq_true_iff, gt_iff_lt, UInt32.lt_iff_toNat_lt,
            toNat_countLimit] at small
          omega
  · intro h
    obtain ⟨spelled, filled, digits, sum, small⟩ := h
    have found : Key.read? key = some (.number k) := Key.read?_eq_some_iff.mpr spelled
    have decimal := Decimal.read_eq_ok_iff.mpr ⟨filled, digits, sum⟩
    have within : (k.isCount && decide (n > countLimit)) = false := by
      rw [Bool.and_eq_false_iff, decide_eq_false_iff_not, gt_iff_lt, UInt32.lt_iff_toNat_lt,
        toNat_countLimit, Nat.not_lt]
      cases count : k.isCount with
      | false => exact .inl rfl
      | true => exact .inr (small count)
    simp only [found, decimal, within, Bool.false_eq_true, if_false]

theorem read_switch_iff {key value : String} {k : SwitchKey} {on : Bool} :
    read key value = .ok (some (.switch k (some on))) ↔ k.spelling = key ∧ Switch.Says value on := by
  unfold read
  constructor
  · intro h
    split at h
    · cases h
    · rename_i k' found
      injection h with h
      injection h with h
      injection h with same said
      subst same
      exact ⟨Key.read?_eq_some_iff.mp found, Switch.read?_eq_some_iff.mp said⟩
    · split at h
      · cases h
      · split at h <;> cases h
  · intro h
    obtain ⟨spelled, word⟩ := h
    have found : Key.read? key = some (.switch k) := Key.read?_eq_some_iff.mpr spelled
    simp only [found, Switch.read?_eq_some_iff.mpr word]

theorem read_countLimit_iff {key value : String} {k : NumberKey} {n : UInt32} :
    read key value = .error (.countLimit k n) ↔ k.spelling = key ∧ k.isCount = true ∧
      67108864 < n.toNat ∧ Decimal.read value = .ok n := by
  unfold read
  constructor
  · intro h
    split at h
    · cases h
    · cases h
    · rename_i k' found
      split at h
      · cases h
      · rename_i n' decimal
        split at h
        · rename_i large
          cases h
          rw [Bool.and_eq_true, decide_eq_true_iff, gt_iff_lt, UInt32.lt_iff_toNat_lt,
            toNat_countLimit] at large
          exact ⟨Key.read?_eq_some_iff.mp found, large.1, large.2, decimal⟩
        · cases h
  · intro h
    obtain ⟨spelled, count, large, decimal⟩ := h
    have found : Key.read? key = some (.number k) := Key.read?_eq_some_iff.mpr spelled
    have beyond : (k.isCount && decide (n > countLimit)) = true := by
      rw [Bool.and_eq_true, decide_eq_true_iff, gt_iff_lt, UInt32.lt_iff_toNat_lt,
        toNat_countLimit]
      exact ⟨count, large⟩
    simp only [found, decimal, beyond, if_true]

end Setting

namespace Line

/-! ## Keys and values -/

/-- The text is a key, blanks and a value, perhaps with blanks around: the key has no blanks
in it, and the value none at its ends. -/
def Pair (text key value : List Char) : Prop :=
  ∃ before gap after, text = before ++ (key ++ gap ++ value) ++ after ∧
    (∀ c ∈ before ++ gap ++ after, Text.isBlank c = true) ∧ gap ≠ [] ∧
    key ≠ [] ∧ (∀ c ∈ key, Text.isBlank c = false) ∧ Text.Begins value ∧ Text.Stops value

variable {text key value rest : List Char} {g : Char}

theorem split?_of_solid (solid : ∀ c ∈ text, Text.isBlank c = false) : Line.split? text = none := by
  have all : text.dropWhile (!Text.isBlank ·) = [] := by simpa using solid
  rw [Line.split?, all]

theorem split?_append (solid : ∀ c ∈ key, Text.isBlank c = false) (blank : Text.isBlank g = true) :
    Line.split? (key ++ g :: rest) =
      if Text.trimStart rest = [] then none else some (key, Text.trimStart rest) := by
  have solid' : ∀ c ∈ key, (!Text.isBlank c) = true := by simpa using solid
  rw [Line.split?, List.dropWhile_append_of_pos solid', List.takeWhile_append_of_pos solid',
    List.dropWhile_cons_of_neg (by simp [blank]), List.takeWhile_cons_of_neg (by simp [blank]),
    List.append_nil]
  dsimp only
  cases Text.trimStart rest <;> rfl

theorem solid_or_exists_blank (text : List Char) :
    (∀ c ∈ text, Text.isBlank c = false) ∨ ∃ key g rest, text = key ++ g :: rest ∧
      (∀ c ∈ key, Text.isBlank c = false) ∧ Text.isBlank g = true := by
  cases found : text.find? Text.isBlank with
  | none => exact .inl (by simpa using found)
  | some g =>
    obtain ⟨blank, key, rest, whole, solid⟩ := List.find?_eq_some_iff_append.mp found
    exact .inr ⟨key, g, rest, whole, by simpa using solid, blank⟩

theorem Pair.split? (h : Pair text key value) :
    Line.split? (Text.trim text) = some (key, value) := by
  obtain ⟨before, gap, after, rfl, blank, gapped, filled, solid, begins, stops⟩ := h
  simp only [List.forall_mem_append] at blank
  obtain ⟨⟨blankBefore, blankGap⟩, blankAfter⟩ := blank
  -- the key begins the trimmed text, and the first blank of the gap ends the key
  have keyBegins : Text.Begins key := by
    obtain ⟨c, rest, rfl⟩ := List.exists_cons_of_ne_nil filled
    exact ⟨c, rest, rfl, solid c List.mem_cons_self⟩
  obtain ⟨g, gaps, rfl⟩ := List.exists_cons_of_ne_nil gapped
  obtain ⟨blankG, blankGaps⟩ := List.forall_mem_cons.mp blankGap
  have notEmpty : value ≠ [] := by
    obtain ⟨c, rest, rfl, -⟩ := begins
    exact List.cons_ne_nil c rest
  have stopped : Text.Stops (key ++ g :: gaps ++ value) := stops.append _
  rw [Text.trim_eq blankBefore ((keyBegins.append _).append _) stopped blankAfter,
    List.append_assoc, List.cons_append, split?_append solid blankG,
    Text.trimStart_eq blankGaps begins, if_neg notEmpty]

theorem pair_of_split? (h : Line.split? (Text.trim text) = some (key, value)) :
    Pair text key value := by
  obtain ⟨before, after, whole, blankBefore, blankAfter, left⟩ := Text.exists_trim text
  generalize Text.trim text = clean at h whole left
  rcases solid_or_exists_blank clean with solid | ⟨word, g, rest, rfl, solid, blankG⟩
  · rw [split?_of_solid solid] at h
    cases h
  rw [split?_append solid blankG] at h
  split at h
  · cases h
  rename_i notEmpty
  cases h
  obtain ⟨gaps, start, blankGaps, begins⟩ := Text.exists_trimStart rest
  generalize Text.trimStart rest = value at notEmpty start begins
  have cut : key ++ g :: rest = key ++ g :: gaps ++ value := by
    rw [start, List.append_assoc, List.cons_append]
  obtain ⟨⟨c, more, first, nonblank⟩, stops⟩ := left.resolve_left (by simp)
  refine ⟨before, g :: gaps, after, cut ▸ whole, ?_, List.cons_ne_nil g gaps, ?_, solid,
    begins.resolve_left notEmpty, ?_⟩
  · simp only [List.forall_mem_append, List.forall_mem_cons]
    exact ⟨⟨blankBefore, blankG, blankGaps⟩, blankAfter⟩
  · -- otherwise the line would begin with a blank
    intro noKey
    rw [noKey] at first
    cases first
    rw [blankG] at nonblank
    cases nonblank
  · rw [cut] at stops
    exact stops.of_append notEmpty

/-- A line without its comment and its outer blanks is split into a key and a value exactly
if it is such a pair. -/
theorem split?_trim_eq_some_iff :
    Line.split? (Text.trim text) = some (key, value) ↔ Pair text key value :=
  ⟨pair_of_split?, Pair.split?⟩

/-! ## Lines -/

/-- The octets hold a value for a key: there are not too many of them, and what stands before
their first `#` is the UTF-8 form of a text with the key and the value. -/
def Offers (octets : Octets) (key value : String) : Prop :=
  octets.length ≤ 1024 ∧ ∃ text, Utf8.encode text = octets.takeWhile (· != 0x23) ∧
    Pair text key.toList value.toList

theorem takeWhile_hash {octets : Octets} (written : Utf8.encode text = octets.takeWhile (· != 0x23)) :
    text.takeWhile (· != '#') = text := by
  rw [List.takeWhile_eq_self_iff]
  intro c mem
  rw [bne_iff_ne]
  intro same
  subst same
  -- its octet would stand before the first one of its kind
  have hash : (0x23 : UInt8) ∈ Utf8.encode text :=
    List.mem_flatMap.mpr ⟨'#', mem, by decide⟩
  rw [written] at hash
  have other := List.mem_takeWhile_imp hash
  simp at other

theorem ofText_iff {Q : Line → Prop} (blank : ¬Q .blank) (bare : ∀ t, ¬Q (.bare t)) :
    Q (ofText text) ↔ ∃ key value : String,
      Line.split? (normalize text) = some (key.toList, value.toList) ∧ Q (ofPair key value) := by
  unfold ofText
  generalize normalize text = clean
  cases clean with
  | nil => simp [blank, Line.split?]
  | cons c cs =>
    cases found : Line.split? (c :: cs) with
    | none => simp [bare, found]
    | some pair =>
      obtain ⟨key, value⟩ := pair
      simp only [found]
      constructor
      · intro meant
        exact ⟨String.ofList key, String.ofList value, by simp, meant⟩
      · intro h
        obtain ⟨key', value', same, meant⟩ := h
        obtain ⟨rfl, rfl⟩ := Prod.mk.inj (Option.some.inj same)
        simpa using meant

/-- What octets say beyond being no line with a value, the key and the value that they offer
say. -/
theorem ofOctets_iff (Q : Line → Prop) {octets : Octets} (tooLong : ¬Q .tooLong)
    (undecodable : ¬Q .undecodable) (blank : ¬Q .blank) (bare : ∀ t, ¬Q (.bare t)) :
    Q (ofOctets octets) ↔ ∃ key value, Offers octets key value ∧ Q (ofPair key value) := by
  unfold ofOctets
  by_cases long : octets.length > lengthLimit
  · have many : ¬octets.length ≤ 1024 := Nat.not_le.mpr long
    rw [if_pos long]
    simp [tooLong, Offers, many]
  rw [if_neg long]
  have short : octets.length ≤ 1024 := Nat.not_lt.mp long
  have cut : Octets.upTo hash octets = octets.takeWhile (· != 0x23) := rfl
  rw [cut]
  cases decoded : Utf8.decode? (octets.takeWhile (· != 0x23)) with
  | none =>
    -- no text has these octets
    simp only [undecodable, false_iff]
    intro h
    obtain ⟨key, value, ⟨-, text, written, -⟩, -⟩ := h
    rw [Utf8.decode?_eq_some_iff.mpr written] at decoded
    cases decoded
  | some text =>
    have written := Utf8.decode?_eq_some_iff.mp decoded
    have normal : normalize text = Text.trim text := by rw [normalize, takeWhile_hash written]
    simp only [ofText_iff blank bare, normal, split?_trim_eq_some_iff]
    constructor
    · intro h
      obtain ⟨key, value, pair, meant⟩ := h
      exact ⟨key, value, ⟨short, text, written, pair⟩, meant⟩
    · intro h
      obtain ⟨key, value, ⟨-, text', written', pair⟩, meant⟩ := h
      rw [← Utf8.decode?_eq_some_iff, decoded] at written'
      cases written'
      exact ⟨key, value, pair, meant⟩

/-- A line gives a setting exactly if it holds a key and a value that are read as the
setting. -/
theorem setting?_ofOctets_eq_some_iff {octets : Octets} {setting : Setting} :
    (ofOctets octets).setting? = some setting ↔ ∃ key value,
      Offers octets key value ∧ Setting.read key value = .ok (some setting) := by
  have pair (key value : String) : (ofPair key value).setting? = some setting ↔
      Setting.read key value = .ok (some setting) := by
    unfold ofPair
    rcases Setting.read key value with fault | _ | setting' <;> simp [setting?]
  rw [ofOctets_iff (fun line => line.setting? = some setting) (by simp [setting?])
    (by simp [setting?]) (by simp [setting?]) (by simp [setting?])]
  simp only [pair]

theorem ofOctets_eq_refused_iff {octets : Octets} {fault : Setting.Fault} :
    ofOctets octets = .refused fault ↔ ∃ key value,
      Offers octets key value ∧ Setting.read key value = .error fault := by
  have pair (key value : String) : ofPair key value = .refused fault ↔
      Setting.read key value = .error fault := by
    unfold ofPair
    rcases Setting.read key value with fault' | _ | setting <;> simp
  rw [ofOctets_iff (fun line => line = .refused fault) (by simp) (by simp) (by simp) (by simp)]
  simp only [pair]

theorem gives_number_iff {octets : Octets} {key : NumberKey} {n : UInt32} :
    (ofOctets octets).setting? = some (.number key n) ↔
      ∃ value, Offers octets key.spelling value ∧ key.Reads value n := by
  rw [setting?_ofOctets_eq_some_iff]
  constructor
  · intro h
    obtain ⟨key', value, offers, reads⟩ := h
    obtain ⟨rfl, means⟩ := Setting.read_number_iff.mp reads
    exact ⟨value, offers, means⟩
  · intro h
    obtain ⟨value, offers, means⟩ := h
    exact ⟨key.spelling, value, offers, Setting.read_number_iff.mpr ⟨rfl, means⟩⟩

theorem gives_switch_iff {octets : Octets} {key : SwitchKey} {on : Bool} :
    (ofOctets octets).setting? = some (.switch key (some on)) ↔
      ∃ value, Offers octets key.spelling value ∧ Switch.Says value on := by
  rw [setting?_ofOctets_eq_some_iff]
  constructor
  · intro h
    obtain ⟨key', value, offers, reads⟩ := h
    obtain ⟨rfl, word⟩ := Setting.read_switch_iff.mp reads
    exact ⟨value, offers, word⟩
  · intro h
    obtain ⟨value, offers, word⟩ := h
    exact ⟨key.spelling, value, offers, Setting.read_switch_iff.mpr ⟨rfl, word⟩⟩

end Line

end SubordinateIds
