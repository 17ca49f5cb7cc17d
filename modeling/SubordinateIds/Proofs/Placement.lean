import Mathlib.Data.Nat.Basic
import SubordinateIds.Placement
import SubordinateIds.Proofs.Block

/-
  Placement in exact arithmetic

  The words of a placement are moved to natural numbers once, here. `place_eq_ok_iff`
  says when a placement gives a start, and which one, without any machine word: under
  the strict policy the start lies the distance of the user id above the pool's minimum,
  if the block ends in the pool; under the wrapping policy that distance is reduced
  modulo the pool's span, wherever the block ends.

  `mod_add_le_of_dvd` is what keeps a wrapped block in the pool: if the block size
  divides the span, then the start lies a whole number of blocks above the minimum.

  `place_cases` says what the two policies have in common: the tests that come before
  them, and the faults of these tests.
-/

namespace SubordinateIds

namespace Pool

/-- The number of ids within the bounds; none if the bounds are upside down. -/
def span (pool : Pool) : Nat := pool.max.toNat + 1 - pool.min.toNat

theorem toNat_sub_toUInt64 {a b : UInt32} (h : b.toNat ≤ a.toNat) :
    (a.toUInt64 - b.toUInt64).toNat = a.toNat - b.toNat := by
  have le : b.toUInt64 ≤ a.toUInt64 := by
    rw [UInt64.le_iff_toNat_le, UInt32.toNat_toUInt64, UInt32.toNat_toUInt64]
    exact h
  rw [UInt64.toNat_sub_of_le _ _ le, UInt32.toNat_toUInt64, UInt32.toNat_toUInt64]

theorem toUInt64_mul_lt (a b : UInt32) : a.toUInt64.toNat * b.toUInt64.toNat < 2 ^ 64 := by
  have bound := Nat.mul_lt_mul'' a.toNat_lt b.toNat_lt
  rw [UInt32.toNat_toUInt64, UInt32.toNat_toUInt64]
  omega

theorem span?_eq_some_iff {pool : Pool} {space : UInt64} :
    pool.span? = some space ↔ pool.min.toNat ≤ pool.max.toNat ∧ space.toNat = pool.span := by
  have low := pool.min.toNat_lt
  have high := pool.max.toNat_lt
  -- the difference of two 32-bit words leaves room for one more in 64 bits
  have words (h : pool.min.toNat ≤ pool.max.toNat) :
      (pool.max.toUInt64 - pool.min.toUInt64 + 1).toNat = pool.span := by
    rw [UInt64.toNat_add, toNat_sub_toUInt64 h, span]
    simp only [UInt64.toNat_one]
    omega
  unfold span?
  split
  · rename_i h
    rw [gt_iff_lt, UInt32.lt_iff_toNat_lt] at h
    simp only [reduceCtorEq, false_iff]
    omega
  · rename_i h
    rw [gt_iff_lt, UInt32.lt_iff_toNat_lt, Nat.not_lt] at h
    rw [Option.some.injEq, ← UInt64.toNat_inj, words h]
    omega

theorem contains_iff {pool : Pool} {id : UInt32} :
    pool.contains id = true ↔ pool.min.toNat ≤ id.toNat ∧ id.toNat ≤ pool.max.toNat := by
  simp [contains, UInt32.le_iff_toNat_le]

/-- The block has the size that the pool gives to every user, and lies in the pool. -/
def Holds (pool : Pool) (block : Block) : Prop :=
  block.ids.card = pool.count.toNat ∧ block.ids ⊆ Finset.Icc pool.min.toNat pool.max.toNat

theorem checkApart_eq_ok_iff {pool : Pool} {kind : Kind} {uid : UInt32} :
    pool.checkApart kind uid = .ok () ↔ pool.contains uid = false := by
  unfold checkApart
  split <;> simp_all

end Pool

namespace Placement

theorem toNat_ofNat {n : Nat} (h : n < 2 ^ 32) : (UInt32.ofNat n).toNat = n :=
  UInt32.toNat_ofNat_of_lt' h

theorem exists_word {n : Nat} (small : n < 2 ^ 32) : ∃ word : UInt32, word.toNat = n :=
  ⟨.ofNat n, toNat_ofNat small⟩

theorem add?_eq_some_iff {a b c : UInt32} :
    add? a b = some c ↔ c.toNat = a.toNat + b.toNat := by
  have bound := c.toNat_lt
  unfold add?
  split
  · rename_i h
    rw [Option.some.injEq, ← UInt32.toNat_inj, UInt32.toNat_add, Nat.mod_eq_of_lt h]
    omega
  · rename_i h
    simp only [reduceCtorEq, false_iff]
    simp only [UInt32.size] at h
    omega

theorem mul?_eq_some_iff {a b c : UInt32} :
    mul? a b = some c ↔ c.toNat = a.toNat * b.toNat := by
  have bound := c.toNat_lt
  unfold mul?
  split
  · rename_i h
    rw [Option.some.injEq, ← UInt32.toNat_inj, UInt32.toNat_mul, Nat.mod_eq_of_lt h]
    omega
  · rename_i h
    simp only [reduceCtorEq, false_iff]
    simp only [UInt32.size] at h
    omega

theorem toNat_sub_one {a : UInt32} (h : 0 < a.toNat) : (a - 1).toNat = a.toNat - 1 := by
  rw [UInt32.toNat_sub_of_le _ _ (by rw [UInt32.le_iff_toNat_le]; exact h)]
  rfl

theorem linear_eq_some_iff {offset start : UInt32} {pool : Pool} :
    (mul? offset pool.count).bind (add? pool.min) = some start ↔
      start.toNat = pool.min.toNat + offset.toNat * pool.count.toNat := by
  have bound := start.toNat_lt
  constructor
  · intro h
    obtain ⟨distance, product, sum⟩ := Option.bind_eq_some_iff.mp h
    rw [mul?_eq_some_iff] at product
    rw [add?_eq_some_iff] at sum
    omega
  · intro exact
    have small : offset.toNat * pool.count.toNat < 2 ^ 32 := by omega
    obtain ⟨distance, word⟩ := exists_word small
    refine Option.bind_eq_some_iff.mpr ⟨distance, mul?_eq_some_iff.mpr word, ?_⟩
    rw [add?_eq_some_iff, word]
    exact exact

/-- The strict policy gives the start whose distance from the minimum is `offset`
blocks, if the last id of its block is in the pool. -/
theorem strict_eq_ok_iff {uid offset start : UInt32} {pool : Pool} (pos : 0 < pool.count.toNat) :
    strict uid offset pool = .ok start ↔
      start.toNat = pool.min.toNat + offset.toNat * pool.count.toNat ∧
        start.toNat + pool.count.toNat ≤ pool.max.toNat + 1 := by
  have one := toNat_sub_one pos
  have high := pool.max.toNat_lt
  unfold strict
  constructor
  · intro h
    split at h
    · cases h
    · rename_i first placed
      rw [linear_eq_some_iff] at placed
      split at h
      · cases h
      · rename_i last ends
        rw [add?_eq_some_iff] at ends
        split at h
        · cases h
        · rename_i inside
          rw [gt_iff_lt, UInt32.lt_iff_toNat_lt] at inside
          cases h
          omega
  · intro h
    obtain ⟨distance, inside⟩ := h
    -- the last id is a word, since it is at most the pool's maximum
    have small : start.toNat + (pool.count.toNat - 1) < 2 ^ 32 := by omega
    obtain ⟨last, word⟩ := exists_word small
    have ends : add? start (pool.count - 1) = some last := by
      rw [add?_eq_some_iff, word, one]
    have low : ¬last > pool.max := by
      rw [gt_iff_lt, UInt32.lt_iff_toNat_lt, word]
      omega
    simp only [linear_eq_some_iff.mpr distance, ends]
    rw [if_neg low]

theorem wrapped_eq_ok_iff {uid offset start : UInt32} {pool : Pool} {space : UInt64}
    (ordered : pool.min.toNat ≤ pool.max.toNat) (whole : space.toNat = pool.span) :
    wrapped uid offset pool space = .ok start ↔
      start.toNat = pool.min.toNat + offset.toNat * pool.count.toNat % pool.span := by
  have high := pool.max.toNat_lt
  have size : pool.span = pool.max.toNat + 1 - pool.min.toNat := rfl
  -- the product of two 32-bit words fits 64 bits, and its remainder 32 bits
  have product : (offset.toUInt64 * pool.count.toUInt64).toNat =
      offset.toNat * pool.count.toNat := by
    rw [UInt64.toNat_mul, Nat.mod_eq_of_lt (Pool.toUInt64_mul_lt offset pool.count),
      UInt32.toNat_toUInt64, UInt32.toNat_toUInt64]
  have reduced : (offset.toUInt64 * pool.count.toUInt64 % space).toNat =
      offset.toNat * pool.count.toNat % pool.span := by
    rw [UInt64.toNat_mod, product, whole]
  have below : offset.toNat * pool.count.toNat % pool.span < pool.span :=
    Nat.mod_lt _ (by omega)
  have word : (offset.toUInt64 * pool.count.toUInt64 % space).toUInt32.toNat =
      offset.toNat * pool.count.toNat % pool.span := by
    rw [UInt64.toNat_toUInt32, reduced]
    exact Nat.mod_eq_of_lt (by omega)
  have sum : add? pool.min (offset.toUInt64 * pool.count.toUInt64 % space).toUInt32 =
      some (UInt32.ofNat (pool.min.toNat + offset.toNat * pool.count.toNat % pool.span)) := by
    rw [add?_eq_some_iff, word, toNat_ofNat (by omega)]
  unfold wrapped
  simp only [reduced, sum]
  rw [if_pos (by simp only [UInt32.size]; omega), Except.ok.injEq, ← UInt32.toNat_inj,
    toNat_ofNat (by omega)]
  exact eq_comm

/-- The user id or the pool is refused by the tests that come before the policy. -/
inductive Fault.Common : Fault → Prop where
  | belowFloor (uid floor : UInt32) : Common (.belowFloor uid floor)
  | zeroCount : Common .zeroCount
  | inverted (min max : UInt32) : Common (.inverted min max)
  | insufficient (count : UInt32) (space : UInt64) (min max : UInt32) :
      Common (.insufficient count space min max)

/-- Either a test that comes before the policy fails, and then with one fault under both
policies, or all of them are passed and the policy alone decides. -/
theorem place_cases (floor : UInt32) (pool : Pool) (uid : UInt32) :
    (∃ fault : Fault, fault.Common ∧ ∀ policy, place policy floor pool uid = .error fault) ∨
      ∃ space, pool.span? = some space ∧ 0 < pool.count.toNat ∧
        place .strict floor pool uid = strict uid (uid - floor) pool ∧
        place .wrap floor pool uid = wrapped uid (uid - floor) pool space := by
  by_cases below : uid < floor
  · exact .inl ⟨_, .belowFloor uid floor, fun policy => by simp only [place, if_pos below]⟩
  by_cases zero : pool.count = 0
  · exact .inl ⟨_, .zeroCount, fun policy => by simp only [place, if_neg below, if_pos zero]⟩
  cases spanned : pool.span? with
  | none =>
    exact .inl ⟨_, .inverted pool.min pool.max, fun policy => by
      simp only [place, if_neg below, if_neg zero, spanned]⟩
  | some space =>
    by_cases large : pool.count.toUInt64 > space
    · exact .inl ⟨_, .insufficient pool.count space pool.min pool.max, fun policy => by
        simp only [place, if_neg below, if_neg zero, spanned, if_pos large]⟩
    · have pos : 0 < pool.count.toNat := by
        rw [Nat.pos_iff_ne_zero]
        exact fun none => zero (UInt32.toNat_inj.mp none)
      refine .inr ⟨space, rfl, pos, ?_, ?_⟩
      · simp only [place, if_neg below, if_neg zero, spanned, if_neg large]
      · simp only [place, if_neg below, if_neg zero, spanned, if_neg large]

/-- When a policy places a block, and where: the user id is not below the floor, the
block size is not zero and fits the pool once, and the policy gives the start. -/
theorem place_eq_ok_iff {policy : Policy} {floor uid start : UInt32} {pool : Pool} :
    place policy floor pool uid = .ok start ↔
      floor.toNat ≤ uid.toNat ∧ 0 < pool.count.toNat ∧ pool.count.toNat ≤ pool.span ∧
        match policy with
        | .strict =>
          start.toNat = pool.min.toNat + (uid.toNat - floor.toNat) * pool.count.toNat ∧
            start.toNat + pool.count.toNat ≤ pool.max.toNat + 1
        | .wrap =>
          start.toNat =
            pool.min.toNat + (uid.toNat - floor.toNat) * pool.count.toNat % pool.span := by
  -- the tests are gone through in the order of the steps; each rules out one condition
  by_cases above : floor.toNat ≤ uid.toNat
  case neg =>
    have below : uid < floor := by
      rw [UInt32.lt_iff_toNat_lt]
      omega
    simp [place, below, above]
  have notBelow : ¬uid < floor := by
    rw [UInt32.lt_iff_toNat_lt]
    omega
  by_cases pos : 0 < pool.count.toNat
  case neg =>
    have zero : pool.count = 0 := UInt32.toNat_inj.mp (by simp; omega)
    simp [place, notBelow, zero]
  have notZero : ¬pool.count = 0 := by
    intro zero
    simp [zero] at pos
  have offset : (uid - floor).toNat = uid.toNat - floor.toNat :=
    UInt32.toNat_sub_of_le _ _ (by rw [UInt32.le_iff_toNat_le]; exact above)
  cases spanned : pool.span? with
  | none =>
    have inverted : pool.max.toNat < pool.min.toNat := by
      unfold Pool.span? at spanned
      split at spanned
      · rename_i h
        exact UInt32.lt_iff_toNat_lt.mp h
      · cases spanned
    simp only [place, if_neg notBelow, if_neg notZero, spanned, reduceCtorEq, false_iff]
    intro h
    obtain ⟨-, -, room, -⟩ := h
    simp only [Pool.span] at room
    omega
  | some space =>
    obtain ⟨ordered, whole⟩ := Pool.span?_eq_some_iff.mp spanned
    have fits : pool.count.toUInt64 > space ↔ ¬pool.count.toNat ≤ pool.span := by
      rw [gt_iff_lt, UInt64.lt_iff_toNat_lt, UInt32.toNat_toUInt64, whole, Nat.not_le]
    by_cases room : pool.count.toNat ≤ pool.span
    case neg => simp [place, notBelow, notZero, spanned, fits, room]
    simp only [place, if_neg notBelow, if_neg notZero, spanned, if_neg (mt fits.mp (by omega)),
      above, pos, room, true_and]
    cases policy with
    | strict => rw [strict_eq_ok_iff pos, offset]
    | wrap => rw [wrapped_eq_ok_iff ordered whole, offset]

theorem place_strict_iff {floor uid start : UInt32} {pool : Pool} :
    place .strict floor pool uid = .ok start ↔
      floor.toNat ≤ uid.toNat ∧ 0 < pool.count.toNat ∧
        start.toNat = pool.min.toNat + (uid.toNat - floor.toNat) * pool.count.toNat ∧
        start.toNat + pool.count.toNat ≤ pool.max.toNat + 1 := by
  rw [place_eq_ok_iff]
  constructor
  · intro h
    obtain ⟨above, pos, -, distance, inside⟩ := h
    exact ⟨above, pos, distance, inside⟩
  · intro h
    obtain ⟨above, pos, distance, inside⟩ := h
    refine ⟨above, pos, ?_, distance, inside⟩
    -- a pool that one block ends in has room for one block
    simp only [Pool.span]
    omega

theorem start_le_maximum {policy : Policy} {floor uid start : UInt32} {pool : Pool}
    (placed : place policy floor pool uid = .ok start) :
    pool.min.toNat ≤ start.toNat ∧ start.toNat ≤ pool.max.toNat := by
  obtain ⟨-, pos, room, result⟩ := place_eq_ok_iff.mp placed
  have size : pool.span = pool.max.toNat + 1 - pool.min.toNat := rfl
  cases policy with
  | strict =>
    obtain ⟨distance, inside⟩ := result
    omega
  | wrap =>
    have below := Nat.mod_lt ((uid.toNat - floor.toNat) * pool.count.toNat)
      (show 0 < pool.span by omega)
    simp only at result
    omega

/-- Multiples of a divisor of `n` go round as often as the divisor goes into `n`. -/
theorem mul_mod_of_dvd {d n : Nat} (divides : d ∣ n) (a : Nat) : a * d % n = a % (n / d) * d := by
  calc a * d % n = a * d % (n / d * d) := by rw [Nat.div_mul_cancel divides]
    _ = a % (n / d) * d := Nat.mul_mod_mul_right d a (n / d)

/-- A multiple of a divisor of `n` that is reduced modulo `n` leaves room for the
divisor below `n`. -/
theorem mod_add_le_of_dvd {a d n : Nat} (pos : 0 < n) (divides : d ∣ n) :
    a * d % n + d ≤ n := by
  have whole : 0 < d := Nat.pos_of_dvd_of_pos divides pos
  have below : a % (n / d) < n / d :=
    Nat.mod_lt a (Nat.div_pos (Nat.le_of_dvd pos divides) whole)
  calc a * d % n + d = (a % (n / d) + 1) * d := by rw [mul_mod_of_dvd divides, Nat.add_one_mul]
    _ ≤ n / d * d := Nat.mul_le_mul_right d below
    _ = n := Nat.div_mul_cancel divides

/-- A block ends in the pool under the strict policy, and under the wrapping policy if
the pool is made of whole blocks. -/
theorem block_le_maximum {policy : Policy} {floor uid start : UInt32} {pool : Pool}
    (placed : place policy floor pool uid = .ok start)
    (whole : policy = .strict ∨ pool.count.toNat ∣ pool.span) :
    start.toNat + pool.count.toNat ≤ pool.max.toNat + 1 := by
  obtain ⟨-, pos, room, result⟩ := place_eq_ok_iff.mp placed
  have size : pool.span = pool.max.toNat + 1 - pool.min.toNat := rfl
  cases policy with
  | strict => exact result.2
  | wrap =>
    have divides : pool.count.toNat ∣ pool.span := whole.resolve_left (by simp)
    have ends := mod_add_le_of_dvd (a := uid.toNat - floor.toNat)
      (show 0 < pool.span by omega) divides
    simp only at result
    omega

theorem holds_of_place {policy : Policy} {floor uid : UInt32} {pool : Pool} {block : Block}
    (placed : place policy floor pool uid = .ok block.start) (count : block.count = pool.count)
    (whole : policy = .strict ∨ pool.count.toNat ∣ pool.span) : pool.Holds block := by
  have low := (start_le_maximum placed).1
  have high := block_le_maximum placed whole
  refine ⟨by rw [Block.card_ids, count], ?_⟩
  intro id mem
  rw [Block.mem_ids, count] at mem
  rw [Finset.mem_Icc]
  omega

theorem strict_ordered {floor u v a b : UInt32} {pool : Pool} (less : u < v)
    (first : place .strict floor pool u = .ok a) (second : place .strict floor pool v = .ok b) :
    a.toNat + pool.count.toNat ≤ b.toNat := by
  obtain ⟨above, -, startA, -⟩ := place_strict_iff.mp first
  obtain ⟨-, -, startB, -⟩ := place_strict_iff.mp second
  rw [UInt32.lt_iff_toNat_lt] at less
  -- the distance grows by at least one block from a user id to the next
  have steps : (u.toNat - floor.toNat) + 1 ≤ v.toNat - floor.toNat := by omega
  have distance := Nat.mul_le_mul_right pool.count.toNat steps
  rw [Nat.add_mul, Nat.one_mul] at distance
  omega

end Placement

end SubordinateIds
