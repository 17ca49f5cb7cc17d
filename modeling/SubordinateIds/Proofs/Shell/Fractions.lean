import Mathlib.Algebra.Order.Floor.Semifield
import Mathlib.Data.Rat.Floor
import Mathlib.Tactic.FieldSimp
import Mathlib.Tactic.Linarith
import SubordinateIds.Shell.Fraction

/-
  Fractions — how numbers that need not be whole are kept and written

  Both ways to round are one: to the nearest whole number, and to the even one of two
  (`IsNearest`). A number is kept with as many binary digits as there is room for: 53, or fewer
  at the lower end of the range (`ofQuotient_spec`). The guess at its size is off by one at most,
  so that one look at the quotient puts it right (`quotient_bounds`). What is written of a number
  with places after the point is the nearest one with so many places (`fixed_spec`).
-/

namespace SubordinateIds.Shell.Fraction

/-! ## Rounding -/

/-- A whole number is as near as possible, and even if another one is as near. -/
def IsNearest (x : ℚ) (q : ℕ) : Prop := |x - q| ≤ 1 / 2 ∧ (|x - q| = 1 / 2 → Even q)

theorem isNearest_nearest (n : ℕ) {d : ℕ} (pos : 0 < d) : IsNearest (n / d) (nearest n d) := by
  have large : (0 : ℚ) < d := by exact_mod_cast pos
  have rest : (n : ℚ) / d - (n / d : ℕ) = (n % d : ℕ) / d := by
    have whole : ((d * (n / d) + n % d : ℕ) : ℚ) = n := by rw [Nat.div_add_mod]
    push_cast at whole
    field_simp
    linarith
  unfold nearest
  extract_lets q r
  change (n : ℚ) / d - q = r / d at rest
  rcases Nat.lt_trichotomy (2 * r) d with below | tie | above
  · have half : (r : ℚ) / d < 1 / 2 := by
      rw [div_lt_div_iff₀ large two_pos]
      exact_mod_cast (by omega : r * 2 < 1 * d)
    have sign : (0 : ℚ) ≤ r / d := by positivity
    rw [if_pos (by simp [below]), IsNearest, rest, abs_of_nonneg sign]
    exact ⟨half.le, fun same => absurd same half.ne⟩
  · have half : (r : ℚ) / d = 1 / 2 := by
      rw [div_eq_div_iff large.ne' two_ne_zero]
      exact_mod_cast (by omega : r * 2 = 1 * d)
    by_cases even : q % 2 = 0
    · rw [if_pos (by simp [tie, even]), IsNearest, rest, half]
      exact ⟨by norm_num, fun _ => Nat.even_iff.mpr even⟩
    · rw [if_neg (by simp [tie, even]), IsNearest]
      have next : (n : ℚ) / d - (q + 1 : ℕ) = -(1 / 2) := by
        push_cast
        linarith
      rw [next]
      exact ⟨by norm_num, fun _ => Nat.even_iff.mpr (by omega)⟩
  · have half : 1 / 2 < (r : ℚ) / d := by
      rw [div_lt_div_iff₀ two_pos large]
      exact_mod_cast (by omega : 1 * d < r * 2)
    have less : (r : ℚ) / d < 1 := by
      rw [div_lt_one large]
      exact_mod_cast Nat.mod_lt n pos
    have next : (n : ℚ) / d - (q + 1 : ℕ) = r / d - 1 := by
      push_cast
      linarith
    have gap : |(r : ℚ) / d - 1| < 1 / 2 := by
      rw [abs_lt]
      constructor <;> linarith
    rw [if_neg (by simp; omega), IsNearest, next]
    exact ⟨gap.le, fun same => absurd same gap.ne⟩

/-- There is only one such number. -/
theorem IsNearest.unique {x : ℚ} {q r : ℕ} (h : IsNearest x q) (h' : IsNearest x r) : q = r := by
  wlog less : q < r generalizing q r
  · rcases Nat.lt_or_eq_of_le (Nat.le_of_not_lt less) with more | same
    · exact (this h' h more).symm
    · exact same.symm
  have below := (abs_le.mp h.1).2
  have above := (abs_le.mp h'.1).1
  -- two whole numbers with half a unit to each are neighbours, and one of them is odd
  have close : (r : ℚ) ≤ q + 1 := by linarith
  obtain rfl : r = q + 1 := Nat.le_antisymm (by exact_mod_cast close) less
  push_cast at above
  have tie : x - q = 1 / 2 := by linarith
  have tie' : x - (q + 1 : ℕ) = -(1 / 2) := by
    push_cast
    linarith
  have even := h.2 (by rw [tie]; norm_num)
  have even' := h'.2 (by rw [tie']; norm_num)
  rw [Nat.even_iff] at even even'
  omega

/-! ## Binary digits -/

theorem shifted_pos (n : ℕ) {d : ℕ} (shift : ℤ) (pos : 0 < d) : 0 < (shifted n d shift).2 := by
  unfold shifted
  split
  · exact pos
  · rw [Nat.shiftLeft_eq]
    positivity

theorem ratio_shifted (n d : ℕ) (shift : ℤ) :
    ((shifted n d shift).1 : ℚ) / (shifted n d shift).2 = n / d * 2 ^ shift := by
  unfold shifted
  split
  · rename_i sign
    obtain ⟨k, rfl⟩ := Int.eq_ofNat_of_zero_le sign
    simp [Nat.shiftLeft_eq]
    ring
  · rename_i sign
    obtain ⟨k, same⟩ := Int.eq_ofNat_of_zero_le (show 0 ≤ -shift by omega)
    obtain rfl : shift = -k := by omega
    simp [Nat.shiftLeft_eq]
    field_simp

/-- The first guess at the size of a quotient is off by one at most. -/
theorem quotient_bounds {n d : ℕ} (nonzero : n ≠ 0) (pos : 0 < d) :
    (2 : ℚ) ^ 52 ≤ n / d * 2 ^ (-((n.log2 : ℤ) - d.log2 - 53)) ∧
      (n / d * 2 ^ (-((n.log2 : ℤ) - d.log2 - 53)) : ℚ) < 2 ^ 54 := by
  have low : (2 : ℚ) ^ n.log2 ≤ n := by exact_mod_cast Nat.log2_self_le nonzero
  have high : (n : ℚ) < 2 ^ (n.log2 + 1) := by exact_mod_cast Nat.lt_log2_self
  have low' : (2 : ℚ) ^ d.log2 ≤ d := by exact_mod_cast Nat.log2_self_le pos.ne'
  have high' : (d : ℚ) < 2 ^ (d.log2 + 1) := by exact_mod_cast Nat.lt_log2_self
  have large : (0 : ℚ) < d := by exact_mod_cast pos
  have power : (2 : ℚ) ^ (-((n.log2 : ℤ) - d.log2 - 53)) = 2 ^ d.log2 * 2 ^ 53 / 2 ^ n.log2 := by
    rw [show -((n.log2 : ℤ) - d.log2 - 53) = d.log2 + 53 - n.log2 by ring]
    rw [zpow_sub₀ two_ne_zero, zpow_add₀ two_ne_zero]
    norm_cast
  have small : (0 : ℚ) < 2 ^ n.log2 := by positivity
  have small' : (0 : ℚ) < 2 ^ d.log2 := by positivity
  rw [pow_succ] at high high'
  rw [power, div_mul_div_comm]
  refine ⟨?_, ?_⟩
  · rw [le_div_iff₀ (by positivity)]
    nlinarith
  · rw [div_lt_iff₀ (by positivity)]
    nlinarith

theorem shift_step (x : ℚ) (shift : ℤ) : x * 2 ^ (-(shift + 1)) = x * 2 ^ (-shift) / 2 := by
  rw [neg_add, zpow_add₀ two_ne_zero]
  ring

/-- A number is kept with 53 binary digits, or with fewer if its last one can count for no
less. -/
theorem ofQuotient_spec {n d digits : ℕ} {shift : ℤ} {inRange : Bool} (nonzero : n ≠ 0)
    (pos : 0 < d) (h : ofQuotient n d = (.finite digits shift, inRange)) :
    IsNearest (n / d * 2 ^ (-shift)) digits ∧ digits ≤ 2 ^ 53 ∧ -1074 ≤ shift ∧
      (shift = -1074 ∨ 2 ^ 52 ≤ digits) := by
  unfold ofQuotient at h
  rw [if_neg nonzero] at h
  extract_lets guess at h
  obtain ⟨low, high⟩ := quotient_bounds nonzero pos
  have first := ratio_shifted n d (-guess)
  generalize shifted n d (-guess) = start at h first
  obtain ⟨a, b⟩ := start
  dsimp only at h first
  have below_iff : a / b < 1 <<< 53 ↔ (n : ℚ) / d * 2 ^ (-guess) < 2 ^ 53 := by
    rw [← first, ← Nat.floor_div_eq_div (K := ℚ), Nat.floor_lt (by positivity),
      Nat.shiftLeft_eq, one_mul]
    norm_cast
  generalize found : (if a / b < 1 <<< 53 then guess else guess + 1) = near at h
  have bounds : (2 : ℚ) ^ 52 ≤ n / d * 2 ^ (-near) ∧ (n / d * 2 ^ (-near) : ℚ) < 2 ^ 53 := by
    split at found
    · rename_i below
      subst found
      exact ⟨low, below_iff.mp below⟩
    · rename_i above
      subst found
      rw [below_iff, not_lt] at above
      rw [shift_step]
      constructor <;> linarith
  have positive := shifted_pos n (-max (-1074) near) pos
  have second := ratio_shifted n d (-max (-1074) near)
  generalize shifted n d (-max (-1074) near) = last at h positive second
  obtain ⟨a, b⟩ := last
  dsimp only at h positive second
  have rounded := isNearest_nearest a positive
  rw [second] at rounded
  generalize nearest a b = q at h rounded
  split at h <;> cases h
  have less : (n / d * 2 ^ (-max (-1074) near) : ℚ) ≤ n / d * 2 ^ (-near) := by
    have := zpow_le_zpow_right₀ (one_le_two (α := ℚ)) (neg_le_neg (le_max_right (-1074) near))
    gcongr
  have gap := abs_le.mp rounded.1
  refine ⟨rounded, ?_, le_max_left _ _, ?_⟩
  · have : (digits : ℚ) < (2 ^ 53 + 1 : ℕ) := by
      push_cast
      linarith
    exact Nat.le_of_lt_succ (by exact_mod_cast this)
  · rcases le_total near (-1074) with small | usual
    · exact .inl (max_eq_left small)
    · rw [max_eq_right usual] at gap
      have : ((2 ^ 52 : ℕ) : ℚ) < (digits + 1 : ℕ) := by
        push_cast
        linarith
      exact .inr (Nat.le_of_lt_succ (by exact_mod_cast this))

/-! ## Digits that are written -/

theorem ofDigitChars_zeros (k : ℕ) (cs : List Char) :
    Nat.ofDigitChars 10 (List.replicate k '0' ++ cs) 0 = Nat.ofDigitChars 10 cs 0 := by
  induction k with
  | zero => rfl
  | succ k ih =>
    rw [List.replicate_succ, List.cons_append, Nat.ofDigitChars_cons]
    exact ih

/-- A number that is written with places after the point is written with all its digits. -/
theorem pointed_spec (full : Bool) (places n : ℕ) :
    ∃ whole part, whole ≠ [] ∧ part.length = places ∧
      Nat.ofDigitChars 10 (whole ++ part) 0 = n ∧
      pointed full places n = if places = 0 && !full then whole else whole ++ '.' :: part := by
  unfold pointed
  extract_lets digits all whole
  have long : places + 1 ≤ all.length := by
    rw [List.length_append, List.length_replicate]
    omega
  have cut : whole.length = all.length - places := by
    rw [List.length_take]
    omega
  refine ⟨whole, all.drop whole.length, ?_, ?_, ?_, rfl⟩
  · rw [← List.length_pos_iff]
    omega
  · rw [List.length_drop]
    omega
  · have joined : whole ++ all.drop whole.length = all := by
      rw [cut]
      exact List.take_append_drop _ _
    rw [joined, ofDigitChars_zeros, Nat.ofDigitChars_ten_toDigits]

theorem ratio_tens (n d places : ℕ) :
    ((n * tens places : ℕ) : ℚ) / d = n / d * 10 ^ places := by
  rw [tens, Nat.pow_eq]
  push_cast
  ring

/-- What is written of a quotient is the nearest number with so many places. -/
theorem fixed_spec (full : Bool) (places n : ℕ) {d : ℕ} (pos : 0 < d) :
    ∃ whole part, whole ≠ [] ∧ part.length = places ∧
      IsNearest (n / d * 10 ^ places) (Nat.ofDigitChars 10 (whole ++ part) 0) ∧
      fixed full places n d = if places = 0 && !full then whole else whole ++ '.' :: part := by
  obtain ⟨whole, part, filled, length, value, written⟩ :=
    pointed_spec full places (nearest (n * tens places) d)
  refine ⟨whole, part, filled, length, ?_, written⟩
  rw [value, ← ratio_tens]
  exact isNearest_nearest _ pos

end SubordinateIds.Shell.Fraction
