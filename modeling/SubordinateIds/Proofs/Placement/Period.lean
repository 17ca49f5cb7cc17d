import Mathlib.Data.Nat.ModEq
import SubordinateIds.Proofs.Placement.Capacity

/-
  Period — which users share a start when blocks wrap

  Under the wrapping policy the user `k` places above the floor starts at the distance
  `k * count` modulo the span. Whether such a block ends in the pool is a matter of the pool
  alone. If it is made of whole blocks, every wrapped block is the block that the strict
  policy has for one of the first users, and two of them are the same or stand apart. If it
  is not, the user for whom the last whole block is passed starts in what is left over at
  the end, and that is too small.

  Two users have one start exactly if their distance is a multiple of the span divided by
  what it has in common with the block size (`Pool.period`): this factor cancels on both
  sides of the congruence.
-/

namespace SubordinateIds

/-- The number of users after whom the starts come again. -/
def Pool.period (pool : Pool) : Nat := pool.span / pool.span.gcd pool.count.toNat

namespace Placement

variable {floor uid u v : UInt32} {pool : Pool} {block a b : Block}

/-! ## Pools made of whole blocks, and others -/

theorem exists_lays_wrap (roomy : pool.Roomy) (divides : pool.count.toNat ∣ pool.span)
    (above : floor ≤ uid) : ∃ block, Lays .wrap floor pool uid block := by
  obtain ⟨start, placed, -⟩ := exists_wrap above roomy
  exact exists_lays placed (block_le_maximum placed (.inr divides))

theorem Lays.strict_of_wrap (lays : Lays .wrap floor pool uid block)
    (divides : pool.count.toNat ∣ pool.span) :
    ∃ first : UInt32, first.toNat = floor.toNat +
        (uid.toNat - floor.toNat) % (pool.span / pool.count.toNat) ∧
      Lays .strict floor pool first block := by
  obtain ⟨above, pos, room, distance⟩ := place_eq_ok_iff.mp lays.start
  have inside := block_le_maximum lays.start (.inr divides)
  simp only [mul_mod_of_dvd divides] at distance
  have bound := uid.toNat_lt
  have less := Nat.mod_le (uid.toNat - floor.toNat) (pool.span / pool.count.toNat)
  -- the first user is not above the one who wraps, so it is a user too
  have small : floor.toNat + (uid.toNat - floor.toNat) % (pool.span / pool.count.toNat) <
      2 ^ 32 := by omega
  obtain ⟨first, word⟩ := exists_word small
  refine ⟨first, word, ⟨?_, lays.count⟩⟩
  rw [place_strict_iff, word, Nat.add_sub_cancel_left]
  exact ⟨Nat.le_add_right _ _, pos, distance, inside⟩

theorem Lays.eq_or_disjoint_wrap (divides : pool.count.toNat ∣ pool.span)
    (first : Lays .wrap floor pool u a) (second : Lays .wrap floor pool v b) :
    a = b ∨ Disjoint a.ids b.ids := by
  obtain ⟨u', -, first'⟩ := first.strict_of_wrap divides
  obtain ⟨v', -, second'⟩ := second.strict_of_wrap divides
  exact first'.eq_or_disjoint_strict second'

theorem exists_escape (roomy : pool.Roomy) (ragged : ¬pool.count.toNat ∣ pool.span) :
    ∃ uid start, place .wrap 0 pool uid = .ok start ∧
      pool.max.toNat < start.toNat + pool.count.toNat - 1 := by
  have pos := roomy.pos
  have high := pool.max.toNat_lt
  have size : pool.span = pool.max.toNat + 1 - pool.min.toNat := rfl
  -- as many blocks as go into the pool leave something over, but not enough for one more
  obtain ⟨k, blocks⟩ : ∃ k, pool.span / pool.count.toNat = k := ⟨_, rfl⟩
  obtain ⟨low, next⟩ := (Nat.div_eq_iff pos).mp blocks
  have uneven : k * pool.count.toNat ≠ pool.span := by
    intro even
    exact ragged ⟨k, by rw [← even, Nat.mul_comm]⟩
  have small : k ≤ k * pool.count.toNat := Nat.le_mul_of_pos_right k pos
  obtain ⟨uid, word⟩ := exists_word (show k < 2 ^ 32 by omega)
  have above : 0 ≤ uid := UInt32.le_iff_toNat_le.mpr (Nat.zero_le _)
  obtain ⟨start, placed, distance⟩ := exists_wrap above roomy
  refine ⟨uid, start, placed, ?_⟩
  rw [word, UInt32.toNat_zero, Nat.sub_zero, Nat.mod_eq_of_lt (by omega)] at distance
  omega

/-- In a pool made of whole blocks every wrapped block lies in the pool, is the block that the
strict policy has for one of the first users, and is the same as another one or stands apart
from it. In any other pool there is a user whose block runs past the maximum. -/
theorem wrap_confined {pool : Pool} (roomy : pool.Roomy) :
    (pool.count.toNat ∣ pool.span → ∀ floor : UInt32,
      (∀ uid, floor ≤ uid → ∃ block, Lays .wrap floor pool uid block ∧ pool.Holds block ∧
        ∃ first : UInt32, first.toNat = floor.toNat +
            (uid.toNat - floor.toNat) % (pool.span / pool.count.toNat) ∧
          Lays .strict floor pool first block) ∧
      ∀ u v a b, Lays .wrap floor pool u a → Lays .wrap floor pool v b →
        a = b ∨ Disjoint a.ids b.ids) ∧
    (¬pool.count.toNat ∣ pool.span → ∃ uid start, place .wrap 0 pool uid = .ok start ∧
      pool.max.toNat < start.toNat + pool.count.toNat - 1) := by
  refine ⟨?_, exists_escape roomy⟩
  intro divides floor
  constructor
  · intro uid above
    obtain ⟨block, lays⟩ := exists_lays_wrap roomy divides above
    exact ⟨block, lays, holds_of_place lays.start lays.count (.inr divides),
      lays.strict_of_wrap divides⟩
  · intro u v a b first second
    exact Lays.eq_or_disjoint_wrap divides first second

/-- All ids there are, in blocks of 2 ^ 16, and the same ids in blocks of 3 * 2 ^ 15. -/
def wholePool : Pool := ⟨0, 4294967295, 65536⟩

@[inherit_doc wholePool]
def unevenPool : Pool := ⟨0, 4294967295, 98304⟩

/-- The whole blocks come again after 2 ^ 16 users, and the uneven ones run past the largest
word. -/
theorem wrap_confined_wide :
    (∃ block, Lays .wrap 1000 wholePool 66539 block ∧ wholePool.Holds block ∧
      ∃ first : UInt32, first.toNat = 1003 ∧ Lays .strict 1000 wholePool first block) ∧
    ∃ uid start, place .wrap 0 unevenPool uid = .ok start ∧
      4294967295 < start.toNat + 98304 - 1 := by
  have roomy : wholePool.Roomy := ⟨by decide, by decide⟩
  have roomy' : unevenPool.Roomy := ⟨by decide, by decide⟩
  obtain ⟨inside, -⟩ := wrap_confined roomy
  obtain ⟨-, outside⟩ := wrap_confined roomy'
  exact ⟨(inside (by decide) 1000).1 66539 (by decide), outside (by decide)⟩

/-! ## Users with one start -/

/-- Multiples of `c` agree modulo `n` if and only if the factors agree modulo what is left of
`n` without its common part with `c`. -/
theorem mul_mod_eq_iff {n : Nat} (pos : 0 < n) (c j k : Nat) :
    j * c % n = k * c % n ↔ n / n.gcd c ∣ ((j : Int) - k).natAbs := by
  rw [← Int.natCast_dvd]
  constructor
  · intro same
    have cancelled : k ≡ j [MOD n / n.gcd c] := Nat.ModEq.cancel_right_div_gcd pos same.symm
    exact Nat.modEq_iff_dvd.mp cancelled
  · intro divides
    have near : k ≡ j [MOD n / n.gcd c] := Nat.modEq_iff_dvd.mpr divides
    have scaled : k * c ≡ j * c [MOD n / n.gcd c * c] := near.mul_right' c
    obtain ⟨m, multiple⟩ := Nat.gcd_dvd_right n c
    have whole : n / n.gcd c * c = n * m := by
      calc n / n.gcd c * c = n / n.gcd c * (n.gcd c * m) := by rw [← multiple]
        _ = n / n.gcd c * n.gcd c * m := (Nat.mul_assoc _ _ _).symm
        _ = n * m := by rw [Nat.div_mul_cancel (Nat.gcd_dvd_left n c)]
    rw [whole] at scaled
    exact (scaled.of_dvd (Nat.dvd_mul_right n m)).symm

theorem wrap_same_iff (roomy : pool.Roomy) (first : floor ≤ u) (second : floor ≤ v) :
    place .wrap floor pool u = place .wrap floor pool v ↔
      pool.period ∣ ((u.toNat : Int) - v.toNat).natAbs := by
  obtain ⟨x, placed₁, distance₁⟩ := exists_wrap first roomy
  obtain ⟨y, placed₂, distance₂⟩ := exists_wrap second roomy
  have whole : 0 < pool.span := Nat.lt_of_lt_of_le roomy.pos roomy.room
  rw [UInt32.le_iff_toNat_le] at first second
  -- the floor does not count: it is taken from both
  have apart : ((u.toNat - floor.toNat : Nat) : Int) - (v.toNat - floor.toNat : Nat) =
      (u.toNat : Int) - v.toNat := by omega
  rw [Pool.period, ← apart, ← mul_mod_eq_iff whole, placed₁, placed₂, Except.ok.injEq,
    ← UInt32.toNat_inj, distance₁, distance₂, Nat.add_left_cancel_iff]

/-- Two users have one start under the wrapping policy exactly if the period divides their
distance. So of as many users in a row as the period says no two have one start. -/
theorem wrap_period {pool : Pool} (roomy : pool.Roomy) (floor : UInt32) :
    (∀ u v : UInt32, floor ≤ u → floor ≤ v → ∃ x y, place .wrap floor pool u = .ok x ∧
      place .wrap floor pool v = .ok y ∧
      (x = y ↔ pool.period ∣ ((u.toNat : Int) - v.toNat).natAbs)) ∧
    ∀ first u v : UInt32, floor ≤ first → first ≤ u → first ≤ v →
      u.toNat < first.toNat + pool.period → v.toNat < first.toNat + pool.period →
      place .wrap floor pool u = place .wrap floor pool v → u = v := by
  constructor
  · intro u v above₁ above₂
    obtain ⟨x, placed₁, -⟩ := exists_wrap above₁ roomy
    obtain ⟨y, placed₂, -⟩ := exists_wrap above₂ roomy
    refine ⟨x, y, placed₁, placed₂, ?_⟩
    rw [← wrap_same_iff roomy above₁ above₂, placed₁, placed₂, Except.ok.injEq]
  · intro first u v above low₁ low₂ high₁ high₂ same
    rw [UInt32.le_iff_toNat_le] at above low₁ low₂
    have multiple := (wrap_same_iff roomy (UInt32.le_iff_toNat_le.mpr (by omega))
      (UInt32.le_iff_toNat_le.mpr (by omega))).mp same
    -- a multiple of the period that is less than the period is nothing
    have near : ((u.toNat : Int) - v.toNat).natAbs < pool.period := by omega
    have none := Nat.eq_zero_of_dvd_of_lt multiple near
    apply UInt32.toNat_inj.mp
    omega

/-- In the widest pool, with blocks of 3 * 2 ^ 15 ids, the starts come again after 2 ^ 17
users: the first user shares a start with the one that many places above, and with none of
those between. -/
theorem wrap_period_uneven :
    (∃ x, place .wrap 1000 unevenPool 1000 = .ok x ∧
      place .wrap 1000 unevenPool 132072 = .ok x) ∧
    place .wrap 1000 unevenPool 1000 ≠ place .wrap 1000 unevenPool 132071 := by
  have roomy : unevenPool.Roomy := ⟨by decide, by decide⟩
  obtain ⟨shared, apart⟩ := wrap_period roomy 1000
  have period : unevenPool.period = 131072 := by decide
  obtain ⟨x, y, placed₁, placed₂, same⟩ := shared 1000 132072 (by decide) (by decide)
  constructor
  · have equal : x = y := same.mpr (by rw [period]; decide)
    subst equal
    exact ⟨x, placed₁, placed₂⟩
  · intro equal
    have sameUser : (1000 : UInt32) = 132071 :=
      apart 1000 1000 132071 (by decide) (by decide) (by decide) (by rw [period]; decide)
        (by rw [period]; decide) equal
    exact absurd sameUser (by decide)

end Placement

end SubordinateIds
