import SubordinateIds.Proofs.Shell.Formulas
import SubordinateIds.Proofs.Text.Decimal
import SubordinateIds.Shell.Reckoning
import SubordinateIds.Shell.Test
import Mathlib.Data.List.Basic
import Mathlib.Data.List.TakeWhile

/-
  Numbers — commands read the numbers that commands write

  A number that is written in decimal and has 64 bits is read as that number (`integer?_toString`),
  and as a status or a count if it may be one (`count?_toString`). So a comparison of two numbers
  that are written holds where it holds of the numbers (`holds?_toString`), and what is worked
  out of them is written in turn (`outcome?_toString`).
-/

namespace SubordinateIds.Shell

theorem isSpace_of_isDigit {c : Char} (digit : c.isDigit = true) : isSpace c = false := by
  obtain ⟨low, -⟩ : 48 ≤ c.toNat ∧ c.toNat ≤ 57 := Char.isDigit_iff_toNat.mp digit
  have after : ¬c ≤ '\r' := by
    intro before
    have : c.toNat ≤ 13 := before
    omega
  have other : c ≠ ' ' := by
    rintro rfl
    cases digit
  simp [isSpace, after, other]

theorem isDigitIn_of_isDigit {c : Char} (digit : c.isDigit = true) : isDigitIn 10 c = true := by
  obtain ⟨low, high⟩ : 48 ≤ c.toNat ∧ c.toNat ≤ 57 := Char.isDigit_iff_toNat.mp digit
  have value : c.toNat - '0'.toNat < 10 := by
    show c.toNat - 48 < 10
    omega
  rw [isDigitIn, digitValue, if_pos digit, Char.isAlphanum, digit, Bool.or_true, Bool.true_and]
  exact decide_eq_true value

theorem digitsValue_eq {digits : List Char} (all : ∀ c ∈ digits, c.isDigit = true) :
    digitsValue 10 digits = Nat.ofDigitChars 10 digits 0 := by
  refine List.foldl_ext _ _ _ fun value c mem => ?_
  rw [digitValue, if_pos (all c mem), Nat.mul_comm]

/-- Digits alone, or behind a sign, are read as their value, up to their end. -/
theorem integerAhead?_digits {digits : List Char} (filled : digits ≠ [])
    (all : ∀ c ∈ digits, c.isDigit = true) :
    integerAhead? (fun cs => (10, cs)) digits = some ((digitsValue 10 digits : Int), []) ∧
    integerAhead? (fun cs => (10, cs)) ('-' :: digits) =
      some (-(digitsValue 10 digits : Int), []) := by
  have whole : digits.takeWhile (isDigitIn 10) = digits :=
    List.takeWhile_eq_self_iff.mpr fun c mem => isDigitIn_of_isDigit (all c mem)
  obtain ⟨c, cs, rfl⟩ := List.exists_cons_of_ne_nil filled
  have digit := all c List.mem_cons_self
  obtain ⟨unsigned, -⟩ := Decimal.of_isDigit digit
  have start : (c :: cs).dropWhile isSpace = c :: cs :=
    List.dropWhile_cons_of_neg (by rw [isSpace_of_isDigit digit]; decide)
  refine ⟨?_, ?_⟩
  · unfold integerAhead?
    rw [start]
    simp [unsigned.1, unsigned.2, whole]
  · have sign : ('-' :: c :: cs).dropWhile isSpace = '-' :: c :: cs := rfl
    unfold integerAhead?
    rw [sign]
    simp [whole]

/-- A number is written as its digits, behind a sign if it is below zero. -/
theorem exists_digits (n : Int) : ∃ digits : List Char,
    digits ≠ [] ∧ (∀ c ∈ digits, c.isDigit = true) ∧
      ((toString n).toList = digits ∧ n = (digitsValue 10 digits : Int) ∨
        (toString n).toList = '-' :: digits ∧ n = -(digitsValue 10 digits : Int)) := by
  have spelled (m : Nat) : (Nat.repr m).toList ≠ [] ∧
      (∀ c ∈ (Nat.repr m).toList, c.isDigit = true) ∧
        digitsValue 10 (Nat.repr m).toList = m := by
    obtain ⟨filled, all, value⟩ := Decimal.digits_repr m
    exact ⟨filled, all, (digitsValue_eq all).trans value⟩
  cases n with
  | ofNat m =>
    obtain ⟨filled, all, value⟩ := spelled m
    exact ⟨_, filled, all, .inl ⟨rfl, by rw [value]; rfl⟩⟩
  | negSucc m =>
    obtain ⟨filled, all, value⟩ := spelled (m + 1)
    refine ⟨_, filled, all, .inr ⟨?_, by rw [value]; rfl⟩⟩
    show ("-" ++ Nat.repr (m + 1)).toList = _
    rw [String.toList_append]
    rfl

theorem integerAhead?_toString (n : Int) :
    integerAhead? (fun cs => (10, cs)) (toString n).toList = some (n, []) := by
  obtain ⟨digits, filled, all, ⟨spelled, value⟩ | ⟨spelled, value⟩⟩ := exists_digits n
  · rw [spelled, (integerAhead?_digits filled all).1, ← value]
  · rw [spelled, (integerAhead?_digits filled all).2, ← value]

theorem integer?_toString {n : Int} (fits : fits64 n = true) : integer? (toString n) = some n := by
  rw [integer?, integerBy?, integerAhead?_toString]
  show (if ([].all isSpace && fits64 n) = true then some n else none) = some n
  rw [fits]
  rfl

theorem count?_toString {n : Nat} (small : n ≤ 2147483647) : count? (toString n) = some n := by
  have written : toString n = toString (n : Int) := rfl
  have fits : fits64 (n : Int) = true := by
    rw [fits64_iff]
    omega
  have within : (decide (0 ≤ (n : Int)) && decide ((n : Int) ≤ 2147483647)) = true := by
    simp only [Bool.and_eq_true, decide_eq_true_eq]
    omega
  rw [written, count?, integer?_toString fits, Option.bind_some, if_pos within]
  rfl

/-- A status or a count is never larger than this. -/
theorem count?_le {text : String} {n : Nat} (h : count? text = some n) : n ≤ 2147483647 := by
  obtain ⟨m, -, h⟩ := Option.bind_eq_some_iff.mp h
  split at h <;> cases h
  rename_i within
  simp only [Bool.and_eq_true, decide_eq_true_eq] at within
  omega

/-! ## Comparisons -/

namespace Test

/-- The signs that compare numbers. -/
def comparisons : List (String × (Int → Int → Bool)) := [
  ("-eq", fun n m => n == m), ("-ne", fun n m => n != m), ("-lt", fun n m => n < m),
  ("-le", fun n m => n ≤ m), ("-gt", fun n m => n > m), ("-ge", fun n m => n ≥ m)]

theorem holds?_toString (probe : Probe) {n m : Int} (fits : fits64 n = true)
    (fits' : fits64 m = true) : ∀ e ∈ comparisons,
      holds? probe [toString n, e.1, toString m] = some (e.2 n m) := by
  have compared {sign : String} {holds : Int → Int → Bool}
      (known : binary? probe sign = some fun a b => do return holds (← integer? a) (← integer? b)) :
      holds? probe [toString n, sign, toString m] = some (holds n m) := by
    show three probe false (toString n) sign (toString m) = _
    rw [three, known]
    dsimp only
    rw [integer?_toString fits, integer?_toString fits']
    show some (holds n m != false) = _
    rw [Bool.bne_false]
  have signs : ∀ e ∈ comparisons,
      binary? probe e.1 = some fun a b => do return e.2 (← integer? a) (← integer? b) := by
    refine List.forall_mem_cons.mpr ⟨rfl, List.forall_mem_cons.mpr ⟨rfl, ?_⟩⟩
    refine List.forall_mem_cons.mpr ⟨rfl, List.forall_mem_cons.mpr ⟨rfl, ?_⟩⟩
    exact List.forall_mem_cons.mpr ⟨rfl, List.forall_mem_cons.mpr ⟨rfl, nofun⟩⟩
  exact fun e mem => compared (signs e mem)

end Test

/-! ## What is worked out -/

namespace Reckoning

theorem number?_toString (n : Int) : number? (toString n) = some n := by
  obtain ⟨digits, filled, all, ⟨spelled, value⟩ | ⟨spelled, value⟩⟩ := exists_digits n
  · have unsigned : (toString n).startsWith "-" = false := by
      rw [Bool.eq_false_iff, Ne, String.startsWith_string_iff, spelled]
      intro sign
      cases all '-' (sign.subset List.mem_cons_self)
    rw [number?, unsigned, spelled]
    simp [filled, List.all_eq_true.mpr all, ← value]
  · have signed : (toString n).startsWith "-" = true := by
      rw [String.startsWith_string_iff, spelled]
      exact ⟨digits, rfl⟩
    rw [number?, signed, spelled]
    simp [filled, List.all_eq_true.mpr all, ← value]

/-- The signs that work out a number of two others, where there is one. -/
def operations : List (String × (Int → Int → Option Int)) := [
  ("+", fun n m => some (n + m)), ("-", fun n m => some (n - m)), ("*", fun n m => some (n * m)),
  ("/", fun n m => if m = 0 then none else some (n.tdiv m)),
  ("%", fun n m => if m = 0 then none else some (n.tmod m))]

theorem outcome?_toString (n m : Int) : ∀ e ∈ operations,
    outcome? e.1 (toString n) (toString m) = (e.2 n m).map toString := by
  have reckoned {sign : String} {act : Int → Int → Option Int}
      (known : ∀ a b, outcome? sign a b = do return toString (← act (← number? a) (← number? b))) :
      outcome? sign (toString n) (toString m) = (act n m).map toString := by
    rw [known, number?_toString, number?_toString]
    show (act n m).bind (fun k => some (toString k)) = _
    rw [Option.map_eq_bind]
    rfl
  have signs : ∀ e ∈ operations, ∀ a b,
      outcome? e.1 a b = do return toString (← e.2 (← number? a) (← number? b)) := by
    refine List.forall_mem_cons.mpr ⟨fun _ _ => rfl, List.forall_mem_cons.mpr ⟨fun _ _ => rfl, ?_⟩⟩
    refine List.forall_mem_cons.mpr ⟨fun _ _ => rfl, List.forall_mem_cons.mpr ⟨fun _ _ => rfl, ?_⟩⟩
    exact List.forall_mem_cons.mpr ⟨fun _ _ => rfl, nofun⟩
  exact fun e mem => reckoned (signs e mem)

end Reckoning

end SubordinateIds.Shell
