import Mathlib.Data.List.Induction
import SubordinateIds.Text.Decimal

/-
  Decimals and their values

  The value of digits is the library's. Reading stops at the first value that leaves 32
  bits; since a value never gets smaller by another digit (`le_ofDigitChars`), what is
  read is a number exactly if the whole value is one.

  A text that is no number is judged from the left. A value that is too large and a
  character that is no digit can both be in it, and the first of them counts: if some
  digits at the front stand for too much (`Overruns`), reading never gets to what comes
  after. `Verdict` lists what can be read of a text, and `read_eq_iff` says that it is read.
-/

namespace SubordinateIds.Decimal

theorem le_ofDigitChars (value : Nat) (cs : List Char) : value ≤ Nat.ofDigitChars 10 cs value := by
  induction cs generalizing value with
  | nil => exact Nat.le_refl _
  | cons c cs ih =>
    rw [Nat.ofDigitChars_cons]
    have more := ih (10 * value + (c.toNat - '0'.toNat))
    omega

theorem readFrom_eq_ok_iff {text : String} {value : Nat} {cs : List Char} {n : UInt32}
    (small : value < UInt32.size) :
    readFrom text value cs = .ok n ↔
      (∀ c ∈ cs, c.isDigit = true) ∧ Nat.ofDigitChars 10 cs value = n.toNat := by
  induction cs generalizing value with
  | nil =>
    rw [readFrom, Except.ok.injEq, ← UInt32.toNat_inj, UInt32.toNat_ofNat_of_lt' small]
    simp
  | cons c cs ih =>
    rw [readFrom, Nat.ofDigitChars_cons, Nat.mul_comm 10 value]
    by_cases digit : c.isDigit = true
    case neg => simp [digit]
    by_cases fits : value * 10 + (c.toNat - '0'.toNat) < UInt32.size
    · simp only [digit, if_true, if_pos fits, ih fits, List.forall_mem_cons, true_and]
    · -- reading stops here, and the whole value can only be larger
      have grown := le_ofDigitChars (value * 10 + (c.toNat - '0'.toNat)) cs
      have bound := n.toNat_lt_size
      simp only [digit, if_true, if_neg fits, reduceCtorEq, false_iff, not_and]
      intro _
      omega

theorem of_isDigit {c : Char} (digit : c.isDigit = true) :
    (c ≠ '-' ∧ c ≠ '+') ∧ Text.isBlank c = false := by
  refine ⟨⟨?_, ?_⟩, ?_⟩
  · intro same
    subst same
    cases digit
  · intro same
    subst same
    cases digit
  · obtain ⟨low, high⟩ : 48 ≤ c.toNat ∧ c.toNat ≤ 57 := Char.isDigit_iff_toNat.mp digit
    simp only [Text.isBlank, Bool.or_eq_false_iff, Bool.and_eq_false_iff, decide_eq_false_iff_not,
      beq_eq_false_iff_ne]
    omega

theorem read_eq_ok_iff {text : String} {n : UInt32} :
    read text = .ok n ↔
      text.toList ≠ [] ∧ (∀ c ∈ text.toList, c.isDigit = true) ∧
        Nat.ofDigitChars 10 text.toList 0 = n.toNat := by
  unfold read
  cases text.toList with
  | nil => simp
  | cons c cs =>
    by_cases digit : c.isDigit = true
    · obtain ⟨⟨minus, plus⟩, filled⟩ := of_isDigit digit
      simp only [minus, plus, filled, decide_false, Bool.or_self, Bool.false_eq_true, if_false]
      rw [readFrom_eq_ok_iff (by decide)]
      simp
    · -- whichever fault it is, the text is not made of digits
      have notDigits : ¬∀ d ∈ c :: cs, d.isDigit = true := fun all => digit (all c List.mem_cons_self)
      simp only [notDigits, false_and, and_false, iff_false]
      split
      · simp
      · split
        · simp
        · simp [readFrom, digit]

theorem digits_repr (n : Nat) :
    (Nat.repr n).toList ≠ [] ∧ (∀ c ∈ (Nat.repr n).toList, c.isDigit = true) ∧
      Nat.ofDigitChars 10 (Nat.repr n).toList 0 = n := by
  rw [Nat.toList_repr]
  refine ⟨Nat.toDigits_ne_nil, ?_, Nat.ofDigitChars_ten_toDigits⟩
  intro c mem
  exact Nat.isDigit_of_mem_toDigits (by decide) (by decide) mem

theorem digits_toString (n : UInt32) :
    (toString n).toList ≠ [] ∧ (∀ c ∈ (toString n).toList, c.isDigit = true) ∧
      Nat.ofDigitChars 10 (toString n).toList 0 = n.toNat :=
  digits_repr n.toNat

theorem toString_inj {m n : UInt32} (h : toString m = toString n) : m = n := by
  obtain ⟨-, -, sum⟩ := digits_toString m
  obtain ⟨-, -, sum'⟩ := digits_toString n
  apply UInt32.toNat_inj.mp
  calc m.toNat
    _ = Nat.ofDigitChars 10 (toString m).toList 0 := sum.symm
    _ = Nat.ofDigitChars 10 (toString n).toList 0 := by rw [h]
    _ = n.toNat := sum'

/-! ## What is read of a text -/

/-- With digits of this value before them, some digits at the front of the text stand for more
than a word. -/
def Overruns (cs : List Char) (value : Nat) : Prop :=
  ∃ front, front <+: cs ∧ (∀ c ∈ front, c.isDigit = true) ∧
    4294967295 < Nat.ofDigitChars 10 front value

theorem overruns_cons_iff {value : Nat} {c : Char} {cs : List Char} (small : value < UInt32.size) :
    Overruns (c :: cs) value ↔
      c.isDigit = true ∧ Overruns cs (value * 10 + (c.toNat - '0'.toNat)) := by
  have size : UInt32.size = 4294967296 := rfl
  constructor
  · intro h
    obtain ⟨front, start, digits, large⟩ := h
    cases front with
    | nil =>
      rw [Nat.ofDigitChars_nil] at large
      omega
    | cons d front =>
      obtain ⟨rfl, start'⟩ := List.cons_prefix_cons.mp start
      obtain ⟨digit, digits⟩ := List.forall_mem_cons.mp digits
      rw [Nat.ofDigitChars_cons, Nat.mul_comm 10] at large
      exact ⟨digit, front, start', digits, large⟩
  · intro h
    obtain ⟨digit, front, start, digits, large⟩ := h
    refine ⟨c :: front, List.cons_prefix_cons.mpr ⟨rfl, start⟩,
      List.forall_mem_cons.mpr ⟨digit, digits⟩, ?_⟩
    rw [Nat.ofDigitChars_cons, Nat.mul_comm 10]
    exact large

theorem readFrom_of_overruns {text : String} {value : Nat} {cs : List Char}
    (small : value < UInt32.size) (overruns : Overruns cs value) :
    readFrom text value cs = .error (.outOfRange text) := by
  induction cs generalizing value with
  | nil =>
    obtain ⟨front, start, -, large⟩ := overruns
    rw [List.prefix_nil.mp start, Nat.ofDigitChars_nil] at large
    exact absurd small (Nat.not_lt.mpr large)
  | cons c cs ih =>
    obtain ⟨digit, overruns⟩ := (overruns_cons_iff small).mp overruns
    simp only [readFrom, digit, if_true]
    split
    · rename_i fits
      exact ih fits overruns
    · rfl

theorem readFrom_of_stray {text : String} {value : Nat} {cs : List Char}
    (small : value < UInt32.size) (within : ¬Overruns cs value)
    (stray : ∃ c ∈ cs, c.isDigit = false) :
    readFrom text value cs = .error (.notNumeric text) := by
  induction cs generalizing value with
  | nil =>
    obtain ⟨c, mem, -⟩ := stray
    cases mem
  | cons c cs ih =>
    by_cases digit : c.isDigit = true
    case neg => simp [readFrom, digit]
    have left : ¬Overruns cs (value * 10 + (c.toNat - '0'.toNat)) := by
      intro overruns
      exact within ((overruns_cons_iff small).mpr ⟨digit, overruns⟩)
    have fits : value * 10 + (c.toNat - '0'.toNat) < UInt32.size := by
      apply Nat.not_le.mp
      intro large
      exact left ⟨[], List.nil_prefix, by simp, large⟩
    have stray : ∃ d ∈ cs, d.isDigit = false := by
      obtain ⟨d, mem, other⟩ := stray
      rcases List.mem_cons.mp mem with rfl | mem
      · rw [digit] at other
        cases other
      · exact ⟨d, mem, other⟩
    simp only [readFrom, digit, if_true, if_pos fits]
    exact ih fits left stray

theorem digitChar_of_isDigit {c : Char} (digit : c.isDigit = true) :
    c.toNat - '0'.toNat < 10 ∧ Nat.digitChar (c.toNat - '0'.toNat) = c := by
  obtain ⟨low, high⟩ : 48 ≤ c.toNat ∧ c.toNat ≤ 57 := Char.isDigit_iff_toNat.mp digit
  have zero : '0'.toNat = 48 := rfl
  have few : c.toNat - '0'.toNat < 10 := by omega
  refine ⟨few, ?_⟩
  apply Char.toNat_inj.mp
  rw [Nat.toNat_digitChar_of_lt_ten few]
  omega

theorem exists_zeros {cs : List Char} (filled : cs ≠ [])
    (digits : ∀ c ∈ cs, c.isDigit = true) :
    ∃ k, cs = List.replicate k '0' ++ Nat.toDigits 10 (Nat.ofDigitChars 10 cs 0) := by
  induction cs using List.reverseRecOn with
  | nil => exact absurd rfl filled
  | append_singleton front c ih =>
    rw [List.forall_mem_append, List.forall_mem_singleton] at digits
    obtain ⟨digits, digit⟩ := digits
    obtain ⟨few, same⟩ := digitChar_of_isDigit digit
    have last : Nat.toDigits 10 (c.toNat - '0'.toNat) = [c] := by
      rw [Nat.toDigits_of_lt_base few, same]
    rw [Nat.ofDigitChars_append, Nat.ofDigitChars_cons, Nat.ofDigitChars_nil]
    by_cases nothing : Nat.ofDigitChars 10 front 0 = 0
    · -- all that stands before is zeros
      rw [nothing, Nat.mul_zero, Nat.zero_add, last]
      rcases front.eq_nil_or_concat with rfl | ⟨_, _, rfl⟩
      · exact ⟨0, rfl⟩
      · obtain ⟨k, spelled⟩ := ih (by simp) digits
        refine ⟨k + 1, ?_⟩
        rw [spelled, nothing, Nat.toDigits_zero, List.replicate_succ']
    · have pos := Nat.pos_of_ne_zero nothing
      obtain ⟨k, spelled⟩ := ih (by rintro rfl; exact nothing rfl) digits
      refine ⟨k, ?_⟩
      rw [← Nat.toDigits_append_toDigits (by decide) pos few, last, ← List.append_assoc,
        ← spelled]

/-- What is read of a text. A number is what the whole text stands for; the faults come in the
order in which they are looked for, and each with what the text is. -/
inductive Verdict (text : String) : Except Fault UInt32 → Prop where
  | number {n : UInt32} (filled : text.toList ≠ [])
      (digits : ∀ c ∈ text.toList, c.isDigit = true)
      (sum : Nat.ofDigitChars 10 text.toList 0 = n.toNat) : Verdict text (.ok n)
  | empty (nothing : text.toList = []) : Verdict text (.error .empty)
  | signed {c : Char} (first : text.toList.head? = some c) (sign : c = '-' ∨ c = '+') :
      Verdict text (.error (.signed text))
  | leadingBlank {c : Char} (first : text.toList.head? = some c) (blank : Text.isBlank c = true) :
      Verdict text (.error (.leadingBlank text))
  | outOfRange (overruns : Overruns text.toList 0) : Verdict text (.error (.outOfRange text))
  | notNumeric {c : Char} (first : text.toList.head? = some c) (unsigned : c ≠ '-' ∧ c ≠ '+')
      (solid : Text.isBlank c = false) (within : ¬Overruns text.toList 0)
      (stray : ∃ c ∈ text.toList, c.isDigit = false) : Verdict text (.error (.notNumeric text))

theorem read_eq_readFrom {text : String} {c : Char} (first : text.toList.head? = some c)
    (unsigned : c ≠ '-' ∧ c ≠ '+') (solid : Text.isBlank c = false) :
    read text = readFrom text 0 text.toList := by
  obtain ⟨cs, spelled⟩ := List.head?_eq_some_iff.mp first
  simp only [read, spelled, unsigned, solid, decide_false, Bool.or_self, Bool.false_eq_true,
    if_false]

theorem Overruns.head? {cs : List Char} (h : Overruns cs 0) :
    ∃ c, cs.head? = some c ∧ c.isDigit = true := by
  obtain ⟨front, ⟨rest, rfl⟩, digits, large⟩ := h
  cases front with
  | nil =>
    rw [Nat.ofDigitChars_nil] at large
    omega
  | cons c front => exact ⟨c, rfl, digits c List.mem_cons_self⟩

theorem Verdict.read_eq {text : String} {r : Except Fault UInt32} (h : Verdict text r) :
    read text = r := by
  cases h with
  | number filled digits sum => exact read_eq_ok_iff.mpr ⟨filled, digits, sum⟩
  | empty nothing => simp only [read, nothing]
  | @signed c first sign =>
    obtain ⟨cs, spelled⟩ := List.head?_eq_some_iff.mp first
    simp [read, spelled, sign]
  | @leadingBlank c first blank =>
    obtain ⟨cs, spelled⟩ := List.head?_eq_some_iff.mp first
    have unsigned : c ≠ '-' ∧ c ≠ '+' := by
      refine ⟨?_, ?_⟩ <;> rintro rfl <;> cases blank
    simp [read, spelled, unsigned, blank]
  | outOfRange overruns =>
    obtain ⟨c, first, digit⟩ := overruns.head?
    obtain ⟨unsigned, solid⟩ := of_isDigit digit
    rw [read_eq_readFrom first unsigned solid]
    exact readFrom_of_overruns (by decide) overruns
  | @notNumeric c first unsigned solid within stray =>
    rw [read_eq_readFrom first unsigned solid]
    exact readFrom_of_stray (by decide) within stray

theorem exists_verdict (text : String) : ∃ r, Verdict text r := by
  cases first : text.toList.head? with
  | none => exact ⟨_, .empty (List.head?_eq_none_iff.mp first)⟩
  | some c =>
    by_cases sign : c = '-' ∨ c = '+'
    · exact ⟨_, .signed first sign⟩
    by_cases blank : Text.isBlank c = true
    · exact ⟨_, .leadingBlank first blank⟩
    by_cases overruns : Overruns text.toList 0
    · exact ⟨_, .outOfRange overruns⟩
    by_cases digits : ∀ d ∈ text.toList, d.isDigit = true
    · -- the whole text is at its front, so it stands for a word
      have small : Nat.ofDigitChars 10 text.toList 0 < 4294967296 := by
        apply Decidable.by_contra
        intro large
        exact overruns ⟨text.toList, List.prefix_refl _, digits, by omega⟩
      have filled : text.toList ≠ [] := by
        intro nothing
        rw [nothing] at first
        cases first
      exact ⟨_, .number filled digits (UInt32.toNat_ofNat_of_lt' small).symm⟩
    · exact ⟨_, .notNumeric first (not_or.mp sign) (by simpa using blank) overruns
        (by simpa using digits)⟩

theorem read_eq_iff {text : String} {r : Except Fault UInt32} :
    read text = r ↔ Verdict text r := by
  constructor
  · intro result
    obtain ⟨r', verdict⟩ := exists_verdict text
    rw [← result, verdict.read_eq]
    exact verdict
  · exact Verdict.read_eq

variable {text t : String}

theorem read_eq_empty_iff : read text = .error .empty ↔ text = "" := by
  rw [read_eq_iff, ← String.toList_eq_nil_iff]
  constructor
  · intro h
    cases h with
    | empty nothing => exact nothing
  · exact .empty

theorem read_eq_signed_iff :
    read text = .error (.signed t) ↔
      t = text ∧ (text.toList.head? = some '+' ∨ text.toList.head? = some '-') := by
  rw [read_eq_iff]
  constructor
  · intro h
    cases h with
    | signed first sign =>
      rcases sign with rfl | rfl
      · exact ⟨rfl, .inr first⟩
      · exact ⟨rfl, .inl first⟩
  · rintro ⟨rfl, plus | minus⟩
    · exact .signed plus (.inr rfl)
    · exact .signed minus (.inl rfl)

theorem read_eq_leadingBlank_iff :
    read text = .error (.leadingBlank t) ↔
      t = text ∧ ∃ c, text.toList.head? = some c ∧ Text.isBlank c = true := by
  rw [read_eq_iff]
  constructor
  · intro h
    cases h with
    | leadingBlank first blank => exact ⟨rfl, _, first, blank⟩
  · rintro ⟨rfl, c, first, blank⟩
    exact .leadingBlank first blank

theorem read_eq_outOfRange_iff :
    read text = .error (.outOfRange t) ↔ t = text ∧ Overruns text.toList 0 := by
  rw [read_eq_iff]
  constructor
  · intro h
    cases h with
    | outOfRange overruns => exact ⟨rfl, overruns⟩
  · rintro ⟨rfl, overruns⟩
    exact .outOfRange overruns

theorem read_eq_notNumeric_iff :
    read text = .error (.notNumeric t) ↔
      t = text ∧ text ≠ "" ∧
        (∀ c, text.toList.head? = some c → c ≠ '+' ∧ c ≠ '-' ∧ Text.isBlank c = false) ∧
        ¬Overruns text.toList 0 ∧ ∃ c ∈ text.toList, c.isDigit = false := by
  rw [read_eq_iff, ne_eq, ← String.toList_eq_nil_iff]
  constructor
  · intro h
    cases h with
    | notNumeric first unsigned solid within stray =>
      refine ⟨rfl, ?_, ?_, within, stray⟩
      · intro nothing
        rw [nothing] at first
        cases first
      · intro d first'
        cases first.symm.trans first'
        exact ⟨unsigned.2, unsigned.1, solid⟩
  · rintro ⟨rfl, filled, begins, within, stray⟩
    obtain ⟨c, cs, spelled⟩ := List.exists_cons_of_ne_nil filled
    have first : t.toList.head? = some c := by rw [spelled]; rfl
    obtain ⟨plus, minus, solid⟩ := begins c first
    exact .notNumeric first ⟨minus, plus⟩ solid within stray

/-- A number is read of its decimal text with zeros in front, and of no other text. -/
theorem read_eq_ok_iff_zeros {text : String} {n : UInt32} :
    read text = .ok n ↔ ∃ k, text.toList = List.replicate k '0' ++ (toString n).toList := by
  have decimal : (toString n).toList = Nat.toDigits 10 n.toNat := Nat.toList_repr
  constructor
  · intro number
    obtain ⟨filled, digits, sum⟩ := read_eq_ok_iff.mp number
    rw [decimal, ← sum]
    exact exists_zeros filled digits
  · intro h
    obtain ⟨k, spelled⟩ := h
    obtain ⟨filled, digits, sum⟩ := digits_toString n
    rw [read_eq_ok_iff, spelled]
    refine ⟨List.append_ne_nil_of_right_ne_nil _ filled, ?_, ?_⟩
    · rw [List.forall_mem_append]
      refine ⟨fun c mem => ?_, digits⟩
      rw [List.eq_of_mem_replicate mem]
      rfl
    · rw [Nat.ofDigitChars_append, Nat.ofDigitChars_replicate_zero, Nat.mul_zero, sum]

/-- Every text is read by what it stands for. It is a number exactly if it is made of digits, at
least one, whose value is a word; then it is the decimal text of the number with zeros in
front. A text that is empty, or begins with a sign or a blank, is refused for that; one whose
digits up to some place stand for more than a word, for that, whatever comes after; and all
others for a character that is no digit. -/
theorem value_decides (text : String) :
    (∀ n : UInt32, read text = .ok n ↔ text ≠ "" ∧ (∀ c ∈ text.toList, c.isDigit = true) ∧
      Nat.ofDigitChars 10 text.toList 0 = n.toNat) ∧
    (read text = .error .empty ↔ text = "") ∧
    (∀ t, read text = .error (.signed t) ↔
      t = text ∧ (text.toList.head? = some '+' ∨ text.toList.head? = some '-')) ∧
    (∀ t, read text = .error (.leadingBlank t) ↔
      t = text ∧ ∃ c, text.toList.head? = some c ∧ Text.isBlank c = true) ∧
    (∀ t, read text = .error (.outOfRange t) ↔
      t = text ∧ ∃ front, front <+: text.toList ∧ (∀ c ∈ front, c.isDigit = true) ∧
        4294967295 < Nat.ofDigitChars 10 front 0) ∧
    (∀ t, read text = .error (.notNumeric t) ↔
      t = text ∧ text ≠ "" ∧
        (∀ c, text.toList.head? = some c → c ≠ '+' ∧ c ≠ '-' ∧ Text.isBlank c = false) ∧
        (¬∃ front, front <+: text.toList ∧ (∀ c ∈ front, c.isDigit = true) ∧
          4294967295 < Nat.ofDigitChars 10 front 0) ∧
        ∃ c ∈ text.toList, c.isDigit = false) ∧
    (∀ n : UInt32, read text = .ok n ↔
      ∃ k, text.toList = List.replicate k '0' ++ (toString n).toList) ∧
    ∀ n : UInt32, read (toString n) = .ok n := by
  refine ⟨fun n => ?_, read_eq_empty_iff, fun t => read_eq_signed_iff,
    fun t => read_eq_leadingBlank_iff, fun t => read_eq_outOfRange_iff,
    fun t => read_eq_notNumeric_iff, fun n => read_eq_ok_iff_zeros, fun n => ?_⟩
  · rw [read_eq_ok_iff, ne_eq, ne_eq, String.toList_eq_nil_iff]
  · exact read_eq_ok_iff_zeros.mpr ⟨0, rfl⟩

end SubordinateIds.Decimal
