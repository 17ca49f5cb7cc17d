import Mathlib.Algebra.Group.Nat.Defs
import SubordinateIds.Text.Utf8

/-
  UTF-8 — the machine reads exactly what the encoding writes

  Between the octets of a text and the machine that reads them stands the table of
  well-formed sequences, `Sequence`: the four lengths, with the bounds that rule out what
  is too long for its value, surrogates, and what lies above the last character. The
  encoding of a character is a row of the table (`sequence_encode`), a row is the encoding
  of its value (`Sequence.encode`), the machine gives the value of a row as one character
  (`Sequence.pieces`), and where it gives a character it has read a row.

  `decode?_eq_some_iff` puts them together: octets are read as a text exactly if they are
  the octets of that text. Of octets that are no text it is known at least that the ASCII
  characters they are shown with stand in them (`mem_of_mem_lossy`).
-/

namespace SubordinateIds.Utf8

/-! ## Sequences -/

/-- An octet that continues a character. -/
def Tail (b : UInt8) : Prop := 0x80 ≤ b.toNat ∧ b.toNat ≤ 0xbf

/-- The well-formed sequences of octets for one character, with its value. -/
inductive Sequence (n : Nat) : Octets → Prop where
  | one {a : UInt8} (first : a.toNat < 0x80) (value : n = a.toNat) : Sequence n [a]
  | two {a b : UInt8} (first : 0xc2 ≤ a.toNat ∧ a.toNat < 0xe0) (second : Tail b)
      (value : n = (a.toNat - 0xc0) * 64 + (b.toNat - 0x80)) : Sequence n [a, b]
  | three {a b c : UInt8} (first : 0xe0 ≤ a.toNat ∧ a.toNat < 0xf0) (second : Tail b)
      (long : a.toNat = 0xe0 → 0xa0 ≤ b.toNat) (scalar : a.toNat = 0xed → b.toNat ≤ 0x9f)
      (third : Tail c)
      (value : n = ((a.toNat - 0xe0) * 64 + (b.toNat - 0x80)) * 64 + (c.toNat - 0x80)) :
      Sequence n [a, b, c]
  | four {a b c d : UInt8} (first : 0xf0 ≤ a.toNat ∧ a.toNat < 0xf5) (second : Tail b)
      (long : a.toNat = 0xf0 → 0x90 ≤ b.toNat) (scalar : a.toNat = 0xf4 → b.toNat ≤ 0x8f)
      (third : Tail c) (fourth : Tail d)
      (value : n = (((a.toNat - 0xf0) * 64 + (b.toNat - 0x80)) * 64 + (c.toNat - 0x80)) * 64 +
        (d.toNat - 0x80)) :
      Sequence n [a, b, c, d]

theorem toNat_ofNat {n : Nat} (h : n < 256) : (UInt8.ofNat n).toNat = n :=
  UInt8.toNat_ofNat_of_lt' h

theorem Sequence.isValidChar {n : Nat} {bs : Octets} (h : Sequence n bs) : n.isValidChar := by
  unfold Nat.isValidChar
  cases h with
  | one first value => omega
  | two first second value =>
    obtain ⟨lowB, highB⟩ := second
    omega
  | three first second long scalar third value =>
    obtain ⟨lowB, highB⟩ := second
    obtain ⟨lowC, highC⟩ := third
    omega
  | four first second long scalar third fourth value =>
    obtain ⟨lowB, highB⟩ := second
    obtain ⟨lowC, highC⟩ := third
    obtain ⟨lowD, highD⟩ := fourth
    omega

theorem Sequence.toNat_ofNat {n : Nat} {bs : Octets} (h : Sequence n bs) :
    (Char.ofNat n).toNat = n := by
  rw [Char.ofNat, dif_pos h.isValidChar]
  rfl

/-! ## Sequences and the encoding -/

theorem sequence_encode (c : Char) : Sequence c.toNat (String.utf8EncodeChar c) := by
  have valid : c.toNat < 0xd800 ∨ (0xdfff < c.toNat ∧ c.toNat < 0x110000) := c.valid
  have word : c.val.toNat = c.toNat := rfl
  unfold String.utf8EncodeChar
  simp only [word]
  generalize c.toNat = n at valid
  -- the octets of the encoding, as numbers
  have octet (m : Nat) (h : m < 256) : (UInt8.ofNat m).toNat = m := toNat_ofNat h
  have tail (m : Nat) : (UInt8.ofNat (m % 64 + 128)).toNat = m % 64 + 128 := octet _ (by omega)
  split
  · have a := octet n (by omega)
    exact .one (by omega) a.symm
  · split
    · have a := octet (n / 64 % 32 + 192) (by omega)
      have b := tail n
      exact .two (by omega) ⟨by omega, by omega⟩ (by omega)
    · split
      · have a := octet (n / 4096 % 16 + 224) (by omega)
        have b := tail (n / 64)
        have c := tail n
        exact .three (by omega) ⟨by omega, by omega⟩ (by omega) (by omega) ⟨by omega, by omega⟩
          (by omega)
      · have a := octet (n / 262144 % 8 + 240) (by omega)
        have b := tail (n / 4096)
        have c := tail (n / 64)
        have d := tail n
        exact .four (by omega) ⟨by omega, by omega⟩ (by omega) (by omega) ⟨by omega, by omega⟩
          ⟨by omega, by omega⟩ (by omega)

theorem Sequence.encode {n : Nat} {bs : Octets} (h : Sequence n bs) :
    String.utf8EncodeChar (Char.ofNat n) = bs := by
  have word : (Char.ofNat n).val.toNat = n := h.toNat_ofNat
  have octet (m : Nat) (a : UInt8) (h : m = a.toNat) : UInt8.ofNat m = a := by
    rw [h, UInt8.ofNat_toNat]
  unfold String.utf8EncodeChar
  simp only [word]
  -- the bounds of a row leave the values that no shorter row has
  cases h with
  | one first value => rw [if_pos (by omega), octet _ _ value]
  | @two a b first second value =>
    obtain ⟨lowB, highB⟩ := second
    rw [if_neg (by omega), if_pos (by omega), octet _ a (by omega), octet _ b (by omega)]
  | @three a b c first second long scalar third value =>
    obtain ⟨lowB, highB⟩ := second
    obtain ⟨lowC, highC⟩ := third
    rw [if_neg (by omega), if_neg (by omega), if_pos (by omega), octet _ a (by omega),
      octet _ b (by omega), octet _ c (by omega)]
  | @four a b c d first second long scalar third fourth value =>
    obtain ⟨lowB, highB⟩ := second
    obtain ⟨lowC, highC⟩ := third
    obtain ⟨lowD, highD⟩ := fourth
    rw [if_neg (by omega), if_neg (by omega), if_neg (by omega), octet _ a (by omega),
      octet _ b (by omega), octet _ c (by omega), octet _ d (by omega)]

/-! ## Sequences and the machine -/

variable {a b low high : UInt8} {bits more : Nat}

theorem piecesFrom_cons (s : State) (b : UInt8) (bs : Octets) :
    piecesFrom s (b :: bs) = (step s b).1 ++ piecesFrom (step s b).2 bs := by
  cases s <;> rfl

theorem enter_one (first : a.toNat < 0x80) :
    enter a = ([.char (Char.ofNat a.toNat)], .start) := by
  unfold enter
  rw [if_pos (UInt8.lt_iff_toNat_lt.mpr first)]

theorem enter_two (first : 0xc2 ≤ a.toNat ∧ a.toNat < 0xe0) :
    enter a = ([], .owing (a.toNat - 0xc0) 0x80 0xbf 0) := by
  simp only [enter, UInt8.lt_iff_toNat_lt, UInt8.reduceToNat]
  rw [if_neg (by omega), if_neg (by omega), if_pos (by omega)]

theorem enter_three (first : 0xe0 ≤ a.toNat ∧ a.toNat < 0xf0) :
    ∃ low high, enter a = ([], .owing (a.toNat - 0xe0) low high 1) ∧
      ∀ b : UInt8, low.toNat ≤ b.toNat ∧ b.toNat ≤ high.toNat ↔
        Tail b ∧ (a.toNat = 0xe0 → 0xa0 ≤ b.toNat) ∧ (a.toNat = 0xed → b.toNat ≤ 0x9f) := by
  refine ⟨if a = 0xe0 then 0xa0 else 0x80, if a = 0xed then 0x9f else 0xbf, ?_, ?_⟩
  · simp only [enter, UInt8.lt_iff_toNat_lt, UInt8.reduceToNat]
    rw [if_neg (by omega), if_neg (by omega), if_neg (by omega), if_pos (by omega)]
  · intro b
    simp only [Tail, ← UInt8.toNat_inj, UInt8.reduceToNat]
    split <;> split <;> simp only [UInt8.reduceToNat] <;> omega

theorem enter_four (first : 0xf0 ≤ a.toNat ∧ a.toNat < 0xf5) :
    ∃ low high, enter a = ([], .owing (a.toNat - 0xf0) low high 2) ∧
      ∀ b : UInt8, low.toNat ≤ b.toNat ∧ b.toNat ≤ high.toNat ↔
        Tail b ∧ (a.toNat = 0xf0 → 0x90 ≤ b.toNat) ∧ (a.toNat = 0xf4 → b.toNat ≤ 0x8f) := by
  refine ⟨if a = 0xf0 then 0x90 else 0x80, if a = 0xf4 then 0x8f else 0xbf, ?_, ?_⟩
  · simp only [enter, UInt8.lt_iff_toNat_lt, UInt8.reduceToNat]
    rw [if_neg (by omega), if_neg (by omega), if_neg (by omega), if_neg (by omega),
      if_pos (by omega)]
  · intro b
    simp only [Tail, ← UInt8.toNat_inj, UInt8.reduceToNat]
    split <;> split <;> simp only [UInt8.reduceToNat] <;> omega

theorem step_owing (inside : low.toNat ≤ b.toNat ∧ b.toNat ≤ high.toNat) :
    step (.owing bits low high (more + 1)) b =
      ([], .owing (bits * 64 + (b.toNat - 0x80)) 0x80 0xbf more) := by
  simp [step, UInt8.le_iff_toNat_le, inside]

theorem step_last (inside : low.toNat ≤ b.toNat ∧ b.toNat ≤ high.toNat) :
    step (.owing bits low high 0) b =
      ([.char (Char.ofNat (bits * 64 + (b.toNat - 0x80)))], .start) := by
  simp [step, UInt8.le_iff_toNat_le, inside]

theorem Tail.inside (h : Tail b) :
    (0x80 : UInt8).toNat ≤ b.toNat ∧ b.toNat ≤ (0xbf : UInt8).toNat := h

theorem Sequence.pieces {n : Nat} {bs : Octets} (h : Sequence n bs) (rest : Octets) :
    piecesFrom .start (bs ++ rest) = .char (Char.ofNat n) :: piecesFrom .start rest := by
  cases h with
  | one first value =>
    rw [List.singleton_append, piecesFrom_cons, step, enter_one first, value]
    rfl
  | two first second value =>
    simp only [List.cons_append, List.nil_append, piecesFrom_cons, step.eq_1, enter_two first,
      step_last second.inside, value]
  | three first second long scalar third value =>
    obtain ⟨low, high, entered, bounds⟩ := enter_three first
    simp only [List.cons_append, List.nil_append, piecesFrom_cons, step.eq_1, entered,
      step_owing ((bounds _).mpr ⟨second, long, scalar⟩), step_last third.inside, value]
  | four first second long scalar third fourth value =>
    obtain ⟨low, high, entered, bounds⟩ := enter_four first
    simp only [List.cons_append, List.nil_append, piecesFrom_cons, step.eq_1, entered,
      step_owing ((bounds _).mpr ⟨second, long, scalar⟩), step_owing third.inside, step_last fourth.inside,
      value]

/-- What is owed comes, if no blot does. -/
theorem owed {bs : Octets} (clear : .blot ∉ piecesFrom (.owing bits low high more) bs) :
    ∃ b rest, bs = b :: rest ∧ low.toNat ≤ b.toNat ∧ b.toNat ≤ high.toNat := by
  cases bs with
  | nil => simp [piecesFrom] at clear
  | cons b rest =>
    by_cases inside : low.toNat ≤ b.toNat ∧ b.toNat ≤ high.toNat
    · exact ⟨b, rest, rfl, inside⟩
    · simp [piecesFrom_cons, step, UInt8.le_iff_toNat_le, inside] at clear

theorem exists_sequence {bs : Octets} (clear : .blot ∉ piecesFrom .start (a :: bs)) :
    ∃ n seq rest, a :: bs = seq ++ rest ∧ Sequence n seq := by
  rw [piecesFrom_cons, step.eq_1] at clear
  -- the first octet says how many must follow, and each of them is owed
  by_cases ascii : a.toNat < 0x80
  · exact ⟨_, [a], bs, rfl, .one ascii rfl⟩
  by_cases two : 0xc2 ≤ a.toNat ∧ a.toNat < 0xe0
  · rw [enter_two two] at clear
    obtain ⟨b, rest, rfl, inside⟩ := owed clear
    exact ⟨_, [a, b], rest, rfl, .two two inside rfl⟩
  by_cases three : 0xe0 ≤ a.toNat ∧ a.toNat < 0xf0
  · obtain ⟨low, high, entered, bounds⟩ := enter_three three
    rw [entered] at clear
    obtain ⟨b, rest, rfl, insideB⟩ := owed clear
    rw [List.nil_append, piecesFrom_cons, step_owing insideB] at clear
    obtain ⟨c, rest, rfl, insideC⟩ := owed clear
    obtain ⟨second, long, scalar⟩ := (bounds b).mp insideB
    exact ⟨_, [a, b, c], rest, rfl, .three three second long scalar insideC rfl⟩
  by_cases four : 0xf0 ≤ a.toNat ∧ a.toNat < 0xf5
  · obtain ⟨low, high, entered, bounds⟩ := enter_four four
    rw [entered] at clear
    obtain ⟨b, rest, rfl, insideB⟩ := owed clear
    rw [List.nil_append, piecesFrom_cons, step_owing insideB] at clear
    obtain ⟨c, rest, rfl, insideC⟩ := owed clear
    rw [List.nil_append, piecesFrom_cons, step_owing insideC] at clear
    obtain ⟨d, rest, rfl, insideD⟩ := owed clear
    obtain ⟨second, long, scalar⟩ := (bounds b).mp insideB
    exact ⟨_, [a, b, c, d], rest, rfl, .four four second long scalar insideC insideD rfl⟩
  -- no other octet can begin a character
  refine absurd ?_ clear
  simp only [enter, UInt8.lt_iff_toNat_lt, UInt8.reduceToNat]
  rw [if_neg (by omega)]
  by_cases low : a.toNat < 0xc2
  · rw [if_pos low]
    exact List.mem_cons_self
  · rw [if_neg low, if_neg (by omega), if_neg (by omega), if_neg (by omega)]
    exact List.mem_cons_self

/-! ## Reading and writing -/

theorem encode_cons (c : Char) (cs : List Char) :
    encode (c :: cs) = String.utf8EncodeChar c ++ encode cs :=
  List.flatMap_cons

theorem pieces_encode (cs : List Char) : pieces (encode cs) = cs.map .char := by
  induction cs with
  | nil => rfl
  | cons c cs ih =>
    have read := (sequence_encode c).pieces (encode cs)
    rw [encode_cons, pieces, read, Char.ofNat_toNat, List.map_cons, ← ih]
    rfl

theorem exists_encode {bs : Octets} (clear : .blot ∉ pieces bs) : ∃ cs, encode cs = bs := by
  -- the octets shrink by a whole sequence at a time
  induction length : bs.length using Nat.strongRecOn generalizing bs with
  | ind size ih =>
    cases bs with
    | nil => exact ⟨[], rfl⟩
    | cons b bs =>
      obtain ⟨n, seq, rest, cut, sequence⟩ := exists_sequence clear
      rw [pieces, cut, sequence.pieces] at clear
      have shorter : rest.length < size := by
        have lengths := congrArg List.length cut
        have filled : 0 < seq.length := by cases sequence <;> simp
        rw [length, List.length_append] at lengths
        omega
      obtain ⟨cs, written⟩ := ih rest.length shorter (List.not_mem_of_not_mem_cons clear) rfl
      refine ⟨Char.ofNat n :: cs, ?_⟩
      rw [encode_cons, sequence.encode, written, cut]

theorem mapM_char?_eq_some_iff {ps : List Piece} {cs : List Char} :
    ps.mapM Piece.char? = some cs ↔ ps = cs.map .char := by
  induction ps generalizing cs with
  | nil => cases cs <;> simp
  | cons piece ps ih =>
    cases piece with
    | blot => cases cs <;> simp [Piece.char?]
    | char c =>
      cases cs with
      | nil => simp [Piece.char?, Option.bind_eq_some_iff]
      | cons d ds =>
        simp only [List.mapM_cons, Piece.char?, Option.pure_def, Option.bind_eq_bind,
          Option.bind_some, Option.bind_eq_some_iff, ih, List.map_cons, List.cons.injEq,
          Option.some.injEq, Piece.char.injEq]
        constructor
        · intro h
          obtain ⟨ds, read, rfl, rfl⟩ := h
          exact ⟨rfl, read⟩
        · intro h
          obtain ⟨rfl, read⟩ := h
          exact ⟨ds, read, rfl, rfl⟩

theorem decode?_eq_some_iff {bs : Octets} {cs : List Char} :
    decode? bs = some cs ↔ encode cs = bs := by
  rw [decode?, mapM_char?_eq_some_iff]
  constructor
  · intro read
    have clear : .blot ∉ pieces bs := by simp [read]
    obtain ⟨cs', written⟩ := exists_encode clear
    rw [← written, pieces_encode] at read
    rw [← written, (List.map_inj_right fun _ _ same => Piece.char.inj same).mp read]
  · intro same
    subst same
    exact pieces_encode cs

/-! ## Characters of one octet -/

/-- What has been read of a character rules out those of one octet, whatever comes. -/
def State.Wide : State → Prop
  | .start => True
  | .owing bits low _ more => 0x80 ≤ (bits * 64 + (low.toNat - 0x80)) * 64 ^ more

theorem wide_enter (a : UInt8) : (enter a).2.Wide := by
  simp only [enter, UInt8.lt_iff_toNat_lt, UInt8.reduceToNat]
  by_cases one : a.toNat < 0x80
  · rw [if_pos one]
    exact trivial
  by_cases early : a.toNat < 0xc2
  · rw [if_neg one, if_pos early]
    exact trivial
  by_cases two : a.toNat < 0xe0
  · rw [if_neg one, if_neg early, if_pos two]
    simp only [State.Wide, UInt8.reduceToNat]
    omega
  by_cases three : a.toNat < 0xf0
  · rw [if_neg one, if_neg early, if_neg two, if_pos three]
    simp only [State.Wide, ← UInt8.toNat_inj, UInt8.reduceToNat]
    split <;> simp only [UInt8.reduceToNat] <;> omega
  by_cases four : a.toNat < 0xf5
  · rw [if_neg one, if_neg early, if_neg two, if_neg three, if_pos four]
    simp only [State.Wide, ← UInt8.toNat_inj, UInt8.reduceToNat]
    split <;> simp only [UInt8.reduceToNat] <;> omega
  rw [if_neg one, if_neg early, if_neg two, if_neg three, if_neg four]
  exact trivial

theorem eq_of_mem_enter {c : Char} (mem : .char c ∈ (enter a).1) : c.toNat = a.toNat := by
  by_cases one : a.toNat < 0x80
  · rw [enter_one one, List.mem_singleton] at mem
    cases mem
    exact (Sequence.one one rfl).toNat_ofNat
  · simp only [enter, UInt8.lt_iff_toNat_lt, UInt8.reduceToNat, if_neg one] at mem
    repeat' split at mem
    all_goals simp at mem

theorem toNat_charOfNat (n : Nat) : (Char.ofNat n).toNat = n ∨ (Char.ofNat n).toNat = 0 := by
  by_cases valid : n.isValidChar
  · left
    rw [Char.ofNat, dif_pos valid]
    rfl
  · right
    rw [Char.ofNat, dif_neg valid]
    rfl

/-- An octet that cannot be what is owed begins a character. -/
theorem step_beside (beside : ¬(low.toNat ≤ b.toNat ∧ b.toNat ≤ high.toNat)) :
    step (.owing bits low high more) b = (.blot :: (enter b).1, (enter b).2) := by
  simp [step, UInt8.le_iff_toNat_le, beside]

variable {s : State} {c : Char}

theorem wide_step (wide : s.Wide) (b : UInt8) : (step s b).2.Wide := by
  cases s with
  | start => exact wide_enter b
  | owing bits low high more =>
    by_cases inside : low.toNat ≤ b.toNat ∧ b.toNat ≤ high.toNat
    · cases more with
      | zero =>
        rw [step_last inside]
        exact trivial
      | succ more =>
        rw [step_owing inside]
        -- the octet is at least the lowest one that is owed
        have least : bits * 64 + (low.toNat - 0x80) ≤ bits * 64 + (b.toNat - 0x80) := by omega
        calc 0x80
          _ ≤ (bits * 64 + (low.toNat - 0x80)) * 64 ^ (more + 1) := wide
          _ ≤ (bits * 64 + (b.toNat - 0x80)) * 64 ^ (more + 1) := Nat.mul_le_mul_right _ least
          _ = ((bits * 64 + (b.toNat - 0x80)) * 64 + 0) * 64 ^ more := by
            rw [Nat.pow_succ', Nat.add_zero, Nat.mul_assoc]
    · rw [step_beside inside]
      exact wide_enter b

theorem eq_of_mem_step (wide : s.Wide) (mem : .char c ∈ (step s b).1) (nonzero : 0 < c.toNat)
    (ascii : c.toNat < 0x80) : c.toNat = b.toNat := by
  cases s with
  | start => exact eq_of_mem_enter mem
  | owing bits low high more =>
    by_cases inside : low.toNat ≤ b.toNat ∧ b.toNat ≤ high.toNat
    · cases more with
      | zero =>
        rw [step_last inside, List.mem_singleton, Piece.char.injEq] at mem
        rw [State.Wide, Nat.pow_zero, Nat.mul_one] at wide
        rw [mem] at nonzero ascii
        have value := toNat_charOfNat (bits * 64 + (b.toNat - 0x80))
        omega
      | succ more =>
        rw [step_owing inside] at mem
        cases mem
    · rw [step_beside inside, List.mem_cons] at mem
      obtain blot | mem := mem
      · cases blot
      · exact eq_of_mem_enter mem

theorem mem_of_mem_piecesFrom {bs : Octets} (wide : s.Wide) (mem : .char c ∈ piecesFrom s bs)
    (nonzero : 0 < c.toNat) (ascii : c.toNat < 0x80) : UInt8.ofNat c.toNat ∈ bs := by
  induction bs generalizing s with
  | nil => cases s <;> simp [piecesFrom] at mem
  | cons b bs ih =>
    rw [piecesFrom_cons, List.mem_append] at mem
    obtain here | later := mem
    · rw [eq_of_mem_step wide here nonzero ascii, UInt8.ofNat_toNat]
      exact List.mem_cons_self
    · exact List.mem_cons_of_mem b (ih (wide_step wide b) later)

theorem mem_of_mem_lossy {bs : Octets} (mem : c ∈ (lossy bs).toList) (nonzero : 0 < c.toNat)
    (ascii : c.toNat < 0x80) : UInt8.ofNat c.toNat ∈ bs := by
  rw [lossy, String.toList_ofList] at mem
  obtain ⟨piece, read, rfl⟩ := List.mem_map.mp mem
  cases piece with
  | char c => exact mem_of_mem_piecesFrom (s := .start) trivial read nonzero ascii
  | blot => exact absurd ascii (by decide)

theorem mem_of_mem_decode {bs : Octets} {cs : List Char} (read : decode? bs = some cs)
    (mem : c ∈ cs) (nonzero : 0 < c.toNat) (ascii : c.toNat < 0x80) : UInt8.ofNat c.toNat ∈ bs := by
  apply mem_of_mem_piecesFrom (s := .start) trivial ?_ nonzero ascii
  have pieces : pieces bs = cs.map .char := mapM_char?_eq_some_iff.mp read
  rw [← Utf8.pieces, pieces]
  exact List.mem_map_of_mem mem

end SubordinateIds.Utf8
