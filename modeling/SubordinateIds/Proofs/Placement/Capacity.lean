import SubordinateIds.Proofs.Placement

/-
  Capacity — how many users a pool has blocks for

  Under the strict policy a placement makes three checked steps in 32 bits: it multiplies,
  adds the minimum, and adds the rest of the block. In exact arithmetic they come to one
  number, the last id of the block (`reach`), and the verdict is found by comparing it with
  the largest word and with the pool's maximum. `Verdict` lists the seven verdicts in the
  order of the tests, and `place_strict_eq_iff` says that they are the placements.

  A pool with room for a block (`Roomy`) therefore serves as many users as whole blocks go
  into it, the floor being the first of them. The user `k` places above the floor has the
  ids from `min + k * count` up to the next user's, so that the blocks of the users who are
  served lie side by side, and what is left over at the end is smaller than a block.
-/

namespace SubordinateIds

/-- A block has at least one id, and the pool has room for at least one block. -/
structure Pool.Roomy (pool : Pool) : Prop where
  pos : 0 < pool.count.toNat
  room : pool.count.toNat ≤ pool.span

theorem Pool.Roomy.ordered {pool : Pool} (roomy : pool.Roomy) :
    pool.min.toNat ≤ pool.max.toNat := by
  obtain ⟨pos, room⟩ := roomy
  rw [Pool.span] at room
  omega

namespace Placement

variable {policy : Policy} {floor uid offset start last : UInt32} {pool : Pool}

/-! ## The strict policy in exact arithmetic -/

/-- The last id of the user's block in exact arithmetic, wherever that lies. -/
def reach (floor uid : UInt32) (pool : Pool) : Nat :=
  pool.min.toNat + (uid.toNat - floor.toNat) * pool.count.toNat + pool.count.toNat - 1

theorem strict_overflow (pos : 0 < pool.count.toNat)
    (wide : 2 ^ 32 ≤ pool.min.toNat + offset.toNat * pool.count.toNat + pool.count.toNat - 1) :
    strict uid offset pool = .error (.overflow uid) := by
  have one := toNat_sub_one pos
  unfold strict
  split
  · rfl
  · rename_i start placed
    rw [linear_eq_some_iff] at placed
    split
    · rfl
    · rename_i last ends
      -- a sum that is a word would be below the bound
      rw [add?_eq_some_iff] at ends
      have bound := last.toNat_lt
      omega

theorem strict_pastMaximum (pos : 0 < pool.count.toNat)
    (ends : last.toNat =
      pool.min.toNat + offset.toNat * pool.count.toNat + pool.count.toNat - 1)
    (past : pool.max.toNat < last.toNat) :
    strict uid offset pool = .error (.pastMaximum uid last pool.max) := by
  have one := toNat_sub_one pos
  have bound := last.toNat_lt
  -- the start is a word, since the last id is one
  have small : pool.min.toNat + offset.toNat * pool.count.toNat < 2 ^ 32 := by omega
  obtain ⟨start, word⟩ := exists_word small
  have placed := linear_eq_some_iff.mpr word
  have sum : add? start (pool.count - 1) = some last := by
    rw [add?_eq_some_iff, word, one]
    omega
  have outside : last > pool.max := by
    rw [gt_iff_lt, UInt32.lt_iff_toNat_lt]
    exact past
  simp only [strict, placed, sum]
  rw [if_pos outside]

/-! ## The verdicts -/

/-- What the strict policy says of a user, in the order in which it looks: every verdict
comes with the conditions under which those before it are not given. -/
inductive Verdict (floor : UInt32) (pool : Pool) (uid : UInt32) : Except Fault UInt32 → Prop where
  | belowFloor (below : uid < floor) : Verdict floor pool uid (.error (.belowFloor uid floor))
  | zeroCount (above : floor ≤ uid) (zero : pool.count = 0) :
      Verdict floor pool uid (.error .zeroCount)
  | inverted (above : floor ≤ uid) (pos : 0 < pool.count.toNat) (inverted : pool.max < pool.min) :
      Verdict floor pool uid (.error (.inverted pool.min pool.max))
  | insufficient {space : UInt64} (above : floor ≤ uid) (pos : 0 < pool.count.toNat)
      (ordered : pool.min ≤ pool.max) (size : space.toNat = pool.max.toNat - pool.min.toNat + 1)
      (short : space.toNat < pool.count.toNat) :
      Verdict floor pool uid (.error (.insufficient pool.count space pool.min pool.max))
  | overflow (above : floor ≤ uid) (roomy : pool.Roomy) (wide : 2 ^ 32 ≤ reach floor uid pool) :
      Verdict floor pool uid (.error (.overflow uid))
  | pastMaximum {last : UInt32} (above : floor ≤ uid) (roomy : pool.Roomy)
      (ends : last.toNat = reach floor uid pool) (past : pool.max.toNat < reach floor uid pool) :
      Verdict floor pool uid (.error (.pastMaximum uid last pool.max))
  | fits {start : UInt32} (above : floor ≤ uid) (roomy : pool.Roomy)
      (inside : reach floor uid pool ≤ pool.max.toNat)
      (begins : start.toNat =
        pool.min.toNat + (uid.toNat - floor.toNat) * pool.count.toNat) :
      Verdict floor pool uid (.ok start)

theorem toNat_offset (above : floor ≤ uid) : (uid - floor).toNat = uid.toNat - floor.toNat :=
  UInt32.toNat_sub_of_le _ _ above

theorem exists_wrap (above : floor ≤ uid) (roomy : pool.Roomy) :
    ∃ start, place .wrap floor pool uid = .ok start ∧ start.toNat =
      pool.min.toNat + (uid.toNat - floor.toNat) * pool.count.toNat % pool.span := by
  obtain ⟨pos, room⟩ := roomy
  have high := pool.max.toNat_lt
  have size : pool.span = pool.max.toNat + 1 - pool.min.toNat := rfl
  have below := Nat.mod_lt ((uid.toNat - floor.toNat) * pool.count.toNat)
    (show 0 < pool.span by omega)
  have small : pool.min.toNat + (uid.toNat - floor.toNat) * pool.count.toNat % pool.span <
      2 ^ 32 := by omega
  obtain ⟨start, word⟩ := exists_word small
  have placed : place .wrap floor pool uid = .ok start := by
    rw [place_eq_ok_iff]
    exact ⟨UInt32.le_iff_toNat_le.mp above, pos, room, word⟩
  exact ⟨start, placed, word⟩

theorem place_of_roomy (above : floor ≤ uid) (roomy : pool.Roomy) :
    place .strict floor pool uid = strict uid (uid - floor) pool := by
  rcases place_cases floor pool uid with ⟨fault, common, fails⟩ | ⟨space, -, -, strict, -⟩
  · -- there is a start under the wrapping policy, so no test before the policies failed
    obtain ⟨start, placed, -⟩ := exists_wrap above roomy
    rw [fails] at placed
    cases placed
  · exact strict

theorem Verdict.place_eq {r : Except Fault UInt32} (h : Verdict floor pool uid r) :
    place .strict floor pool uid = r := by
  have notBelow (above : floor ≤ uid) : ¬uid < floor := UInt32.not_lt.mpr above
  have notZero (pos : 0 < pool.count.toNat) : ¬pool.count = 0 := by
    intro zero
    simp [zero] at pos
  cases h with
  | belowFloor below => rw [place, if_pos below]
  | zeroCount above zero => rw [place, if_neg (notBelow above), if_pos zero]
  | inverted above pos inverted =>
    have none : pool.span? = none := by
      rw [Pool.span?, if_pos inverted]
    simp only [place, if_neg (notBelow above), if_neg (notZero pos), none]
  | @insufficient space above pos ordered size short =>
    have some : pool.span? = some space := by
      rw [UInt32.le_iff_toNat_le] at ordered
      rw [Pool.span?_eq_some_iff, Pool.span]
      omega
    have large : pool.count.toUInt64 > space := by
      rw [gt_iff_lt, UInt64.lt_iff_toNat_lt, UInt32.toNat_toUInt64]
      exact short
    simp only [place, if_neg (notBelow above), if_neg (notZero pos), some, if_pos large]
  | overflow above roomy wide =>
    rw [reach, ← toNat_offset above] at wide
    rw [place_of_roomy above roomy, strict_overflow roomy.pos wide]
  | pastMaximum above roomy ends past =>
    rw [← ends] at past
    rw [reach, ← toNat_offset above] at ends
    rw [place_of_roomy above roomy, strict_pastMaximum roomy.pos ends past]
  | fits above roomy inside begins =>
    have pos := roomy.pos
    rw [reach] at inside
    rw [place_strict_iff]
    exact ⟨UInt32.le_iff_toNat_le.mp above, pos, begins, by omega⟩

theorem exists_verdict (floor : UInt32) (pool : Pool) (uid : UInt32) :
    ∃ r, Verdict floor pool uid r := by
  by_cases below : uid < floor
  · exact ⟨_, .belowFloor below⟩
  have above : floor ≤ uid := UInt32.not_lt.mp below
  by_cases zero : pool.count = 0
  · exact ⟨_, .zeroCount above zero⟩
  have pos : 0 < pool.count.toNat :=
    Nat.pos_of_ne_zero fun none => zero (UInt32.toNat_inj.mp none)
  by_cases inverted : pool.max < pool.min
  · exact ⟨_, .inverted above pos inverted⟩
  have ordered : pool.min ≤ pool.max := UInt32.not_lt.mp inverted
  have bounds := UInt32.le_iff_toNat_le.mp ordered
  have size : pool.span = pool.max.toNat - pool.min.toNat + 1 := by
    rw [Pool.span]
    omega
  by_cases room : pool.count.toNat ≤ pool.span
  case neg =>
    have high := pool.max.toNat_lt
    have word : (UInt64.ofNat pool.span).toNat = pool.span := by
      apply UInt64.toNat_ofNat_of_lt'
      simp only [UInt64.size]
      omega
    exact ⟨_, .insufficient above pos ordered (word.trans size) (by omega)⟩
  have roomy : pool.Roomy := ⟨pos, room⟩
  by_cases wide : 2 ^ 32 ≤ reach floor uid pool
  · exact ⟨_, .overflow above roomy wide⟩
  by_cases past : pool.max.toNat < reach floor uid pool
  · obtain ⟨last, ends⟩ := exists_word (Nat.not_le.mp wide)
    exact ⟨_, .pastMaximum above roomy ends past⟩
  · have small : pool.min.toNat + (uid.toNat - floor.toNat) * pool.count.toNat < 2 ^ 32 := by
      rw [reach] at wide
      omega
    obtain ⟨start, begins⟩ := exists_word small
    exact ⟨_, .fits above roomy (Nat.not_lt.mp past) begins⟩

theorem place_strict_eq_iff {r : Except Fault UInt32} :
    place .strict floor pool uid = r ↔ Verdict floor pool uid r := by
  constructor
  · intro placed
    obtain ⟨r', verdict⟩ := exists_verdict floor pool uid
    rw [← placed, verdict.place_eq]
    exact verdict
  · exact Verdict.place_eq

/-! ## Blocks side by side -/

/-- The block that a policy has for a user: it is as large as the pool says, and starts where
the policy places it. -/
structure Lays (policy : Policy) (floor : UInt32) (pool : Pool) (uid : UInt32) (block : Block) :
    Prop where
  start : place policy floor pool uid = .ok block.start
  count : block.count = pool.count

theorem Lays.unique {a b : Block} (first : Lays policy floor pool uid a)
    (second : Lays policy floor pool uid b) : a = b := by
  have starts := first.start.symm.trans second.start
  exact Block.ext_start_count (Except.ok.inj starts) (first.count.trans second.count.symm)

theorem exists_lays (placed : place policy floor pool uid = .ok start)
    (ends : start.toNat + pool.count.toNat ≤ pool.max.toNat + 1) :
    ∃ block, Lays policy floor pool uid block := by
  obtain ⟨-, pos, -, -⟩ := place_eq_ok_iff.mp placed
  have high := pool.max.toNat_lt
  have fits : start.toNat + pool.count.toNat ≤ UInt32.size := by
    simp only [UInt32.size]
    omega
  exact ⟨⟨start, pool.count, pos, fits⟩, placed, rfl⟩

/-- A distance of whole blocks leaves room for one more exactly if it is less than the number
of blocks that go into the pool. -/
theorem mul_add_le_span_iff (roomy : pool.Roomy) {k : Nat} :
    k * pool.count.toNat + pool.count.toNat ≤ pool.span ↔ k < pool.span / pool.count.toNat := by
  rw [← Nat.add_one_mul, ← Nat.le_div_iff_mul_le roomy.pos]
  exact Nat.add_one_le_iff

theorem strict_served_iff (roomy : pool.Roomy) :
    (∃ start, place .strict floor pool uid = .ok start) ↔
      floor.toNat ≤ uid.toNat ∧
        uid.toNat - floor.toNat < pool.span / pool.count.toNat := by
  have ordered := roomy.ordered
  have size : pool.span = pool.max.toNat + 1 - pool.min.toNat := rfl
  rw [← mul_add_le_span_iff roomy]
  constructor
  · intro served
    obtain ⟨start, placed⟩ := served
    obtain ⟨above, -, distance, inside⟩ := place_strict_iff.mp placed
    omega
  · intro first
    obtain ⟨above, inside⟩ := first
    have high := pool.max.toNat_lt
    have pos := roomy.pos
    have small : pool.min.toNat + (uid.toNat - floor.toNat) * pool.count.toNat < 2 ^ 32 := by
      omega
    obtain ⟨start, distance⟩ := exists_word small
    refine ⟨start, place_strict_iff.mpr ⟨above, pos, distance, ?_⟩⟩
    omega

theorem Lays.ids_strict {block : Block} (lays : Lays .strict floor pool uid block) :
    block.ids = Finset.Ico (pool.min.toNat + (uid.toNat - floor.toNat) * pool.count.toNat)
      (pool.min.toNat + (uid.toNat - floor.toNat + 1) * pool.count.toNat) := by
  obtain ⟨placed, count⟩ := lays
  obtain ⟨-, -, distance, -⟩ := place_strict_iff.mp placed
  apply Finset.ext
  intro id
  rw [Block.mem_ids, Finset.mem_Ico, distance, count, Nat.add_one_mul, Nat.add_assoc]

theorem Lays.disjoint_strict {u v : UInt32} {a b : Block}
    (first : Lays .strict floor pool u a) (second : Lays .strict floor pool v b)
    (less : u.toNat < v.toNat) : Disjoint a.ids b.ids := by
  have ordered := strict_ordered (UInt32.lt_iff_toNat_lt.mpr less) first.start second.start
  rw [← first.count] at ordered
  rw [Finset.disjoint_left]
  intro id mem₁ mem₂
  rw [Block.mem_ids] at mem₁ mem₂
  omega

theorem Lays.eq_or_disjoint_strict {u v : UInt32} {a b : Block}
    (first : Lays .strict floor pool u a) (second : Lays .strict floor pool v b) :
    a = b ∨ Disjoint a.ids b.ids := by
  rcases Nat.lt_trichotomy u.toNat v.toNat with less | same | more
  · exact .inr (first.disjoint_strict second less)
  · rw [UInt32.toNat_inj] at same
    subst same
    exact .inl (first.unique second)
  · exact .inr (second.disjoint_strict first more).symm

/-- The number of users who are served: one for every whole block, unless the user ids end
before that. -/
def served (floor : UInt32) (pool : Pool) : Nat :=
  min (pool.span / pool.count.toNat) (2 ^ 32 - floor.toNat)

/-- An id belongs to the user whose distance from the floor is the number of whole blocks
below the id. -/
theorem mem_strict_iff (roomy : pool.Roomy) {id : Nat} :
    (∃ block, Lays .strict floor pool uid block ∧ id ∈ block.ids) ↔
      floor.toNat ≤ uid.toNat ∧ uid.toNat - floor.toNat < pool.span / pool.count.toNat ∧
        pool.min.toNat ≤ id ∧ (id - pool.min.toNat) / pool.count.toNat =
          uid.toNat - floor.toNat := by
  have between (k : Nat) : (id - pool.min.toNat) / pool.count.toNat = k ↔
      k * pool.count.toNat ≤ id - pool.min.toNat ∧
        id - pool.min.toNat ≤ k * pool.count.toNat + pool.count.toNat - 1 :=
    Nat.div_eq_iff roomy.pos
  have pos := roomy.pos
  constructor
  · intro owned
    obtain ⟨block, lays, mem⟩ := owned
    obtain ⟨above, first⟩ := (strict_served_iff roomy).mp ⟨_, lays.start⟩
    rw [lays.ids_strict, Finset.mem_Ico, Nat.add_one_mul] at mem
    refine ⟨above, first, by omega, ?_⟩
    rw [between]
    omega
  · intro first
    obtain ⟨above, first, low, blocks⟩ := first
    rw [between] at blocks
    obtain ⟨start, placed⟩ := (strict_served_iff roomy).mpr ⟨above, first⟩
    obtain ⟨block, lays⟩ := exists_lays placed (block_le_maximum placed (.inl rfl))
    refine ⟨block, lays, ?_⟩
    rw [lays.ids_strict, Finset.mem_Ico, Nat.add_one_mul]
    omega

/-- The ids of the users who are served are those from the minimum on, as many as these users
have together, and each of these ids has one owner. -/
theorem existsUnique_owner_iff (roomy : pool.Roomy) {id : Nat} :
    (∃! uid, ∃ block, Lays .strict floor pool uid block ∧ id ∈ block.ids) ↔
      pool.min.toNat ≤ id ∧ id < pool.min.toNat + served floor pool * pool.count.toNat := by
  have below (n : Nat) : (id - pool.min.toNat) / pool.count.toNat < n ↔
      id - pool.min.toNat < n * pool.count.toNat :=
    Nat.div_lt_iff_lt_mul roomy.pos
  constructor
  · intro owner
    obtain ⟨uid, owned⟩ := owner.exists
    obtain ⟨above, first, low, blocks⟩ := (mem_strict_iff roomy).mp owned
    have bound := uid.toNat_lt
    have few : (id - pool.min.toNat) / pool.count.toNat < served floor pool := by
      rw [served, Nat.lt_min]
      omega
    rw [below] at few
    omega
  · intro inside
    obtain ⟨low, high⟩ := inside
    -- the owner is as many users above the floor as there are whole blocks below the id
    obtain ⟨k, blocks⟩ : ∃ k, (id - pool.min.toNat) / pool.count.toNat = k := ⟨_, rfl⟩
    have few : k < served floor pool := by
      rw [← blocks, below]
      omega
    rw [served, Nat.lt_min] at few
    have small : floor.toNat + k < 2 ^ 32 := by omega
    obtain ⟨uid, word⟩ := exists_word small
    refine ⟨uid, ?_, ?_⟩
    · apply (mem_strict_iff roomy).mpr
      rw [word, blocks]
      omega
    · intro other owned
      obtain ⟨above, -, -, distance⟩ := (mem_strict_iff roomy).mp owned
      apply UInt32.toNat_inj.mp
      omega

/-- What the strict policy says of a user is told by the last id of the user's block in exact
arithmetic. So a roomy pool serves the first users, as many as whole blocks go into it, and
their blocks lie side by side from the minimum on, each id in one of them. -/
theorem strict_capacity (floor : UInt32) (pool : Pool) :
    (∀ uid r, place .strict floor pool uid = r ↔ Verdict floor pool uid r) ∧
      (pool.Roomy →
        (∀ uid, (∃ start, place .strict floor pool uid = .ok start) ↔
          floor.toNat ≤ uid.toNat ∧
            uid.toNat - floor.toNat < pool.span / pool.count.toNat) ∧
        (∀ uid block, Lays .strict floor pool uid block → pool.Holds block ∧
          block.ids = Finset.Ico
            (pool.min.toNat + (uid.toNat - floor.toNat) * pool.count.toNat)
            (pool.min.toNat + (uid.toNat - floor.toNat + 1) * pool.count.toNat)) ∧
        ∀ id, (∃! uid, ∃ block, Lays .strict floor pool uid block ∧ id ∈ block.ids) ↔
          pool.min.toNat ≤ id ∧
            id < pool.min.toNat + served floor pool * pool.count.toNat) := by
  refine ⟨fun uid r => place_strict_eq_iff, ?_⟩
  intro roomy
  refine ⟨fun uid => strict_served_iff roomy, ?_, fun id => existsUnique_owner_iff roomy⟩
  intro uid block lays
  exact ⟨holds_of_place lays.start lays.count (.inl rfl), lays.ids_strict⟩

/-- A pool near the largest word, in which two blocks of 100 ids leave 50 ids over. -/
def tightPool : Pool := ⟨4294966996, 4294967245, 100⟩

/-- Two users are served. The block of the third would end at the largest word, and that of
the fourth past it. The last id of the second block has one owner, and the next one none. -/
theorem strict_capacity_tight :
    (∃ start, place .strict 1000 tightPool 1001 = .ok start) ∧
      place .strict 1000 tightPool 1002 =
        .error (.pastMaximum 1002 4294967295 4294967245) ∧
      place .strict 1000 tightPool 1003 = .error (.overflow 1003) ∧
      (∃! uid, ∃ block, Lays .strict 1000 tightPool uid block ∧ 4294967195 ∈ block.ids) ∧
      ¬∃! uid, ∃ block, Lays .strict 1000 tightPool uid block ∧ 4294967196 ∈ block.ids := by
  obtain ⟨verdicts, rest⟩ := strict_capacity 1000 tightPool
  have roomy : tightPool.Roomy := ⟨by decide, by decide⟩
  obtain ⟨first, -, owners⟩ := rest roomy
  refine ⟨(first 1001).mpr (by decide), ?_, ?_, ?_, ?_⟩
  · rw [verdicts]
    exact .pastMaximum (by decide) roomy (by decide) (by decide)
  · rw [verdicts]
    exact .overflow (by decide) roomy (by decide)
  · rw [owners]
    decide
  · rw [owners]
    decide

end Placement

end SubordinateIds
