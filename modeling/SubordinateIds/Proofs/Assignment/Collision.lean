import SubordinateIds.Proofs.Assignment.Starts
import SubordinateIds.Proofs.Placement

/-
  Collision — blocks and the user ids of those who get them

  A user id is compared with the bounds of the pool, not with the block. So a block that
  is given out keeps clear of every user id that passed, as long as it ends in the pool.
  A wrapped block need not: it may run past the maximum, and what lies there is not
  looked at. Which user ids such a block covers is said exactly, and a user is shown who
  would be given its own id.
-/

namespace SubordinateIds.Assignment

variable {c : Configuration} {kind : Kind} {u v : Account} {a b : Block}

/-- Under the configuration the account is given this block of the kind, or would be, in
some session and by some tools. -/
def Gives (c : Configuration) (kind : Kind) (account : Account) (block : Block) : Prop :=
  ∃ tools dryRun s grant, ((serve tools account c dryRun kind).run s).1 = .ok (.granted grant) ∧
    grant.block = block

theorem Gives.placed (h : Gives c kind u a) :
    (c.pool kind).contains u.uid = false ∧
      Placement.place c.policy c.uidMin (c.pool kind) u.uid = .ok a.start ∧
      a.count = (c.pool kind).count := by
  obtain ⟨tools, dryRun, s, grant, served, rfl⟩ := h
  obtain ⟨cs, -, course⟩ := Task.serve_course (Prod.ext served rfl)
  obtain ⟨apart, start, count⟩ := course.places
  exact ⟨Pool.checkApart_eq_ok_iff.mp apart, start, count⟩

/-- A block that starts in the pool covers an id from outside the pool only past the
pool's maximum. -/
theorem Gives.contains_outside_iff (h : Gives c kind u a) {uid : UInt32}
    (outside : (c.pool kind).contains uid = false) :
    a.contains uid = true ↔ (c.pool kind).max < uid ∧ uid ≤ a.last := by
  obtain ⟨-, placed, -⟩ := h.placed
  have start := Placement.start_le_maximum placed
  rw [← Bool.not_eq_true, Pool.contains_iff] at outside
  -- an id below the pool is below the start of the block
  rw [Block.contains, Bool.and_eq_true, decide_eq_true_iff, decide_eq_true_iff,
    UInt32.le_iff_toNat_le, UInt32.lt_iff_toNat_lt]
  constructor
  · intro h
    obtain ⟨low, high⟩ := h
    exact ⟨by omega, high⟩
  · intro h
    obtain ⟨past, high⟩ := h
    exact ⟨by omega, high⟩

/-- Of the user ids of two users who are given blocks, a block covers those between the
maximum of the pool and its own end, and no others. Under the strict policy, and if
the pool is made of whole blocks, there are none of these. -/
theorem gives_contains_iff (first : Gives c kind u a) (second : Gives c kind v b) :
    ∀ uid ∈ [u.uid, v.uid],
      (a.contains uid = true ↔ (c.pool kind).max < uid ∧ uid ≤ a.last) ∧
        (c.allowWrap = false ∨ (c.pool kind).count.toNat ∣ (c.pool kind).span →
          a.contains uid = false) := by
  intro uid mem
  have outside : (c.pool kind).contains uid = false := by
    rcases List.mem_pair.mp mem with rfl | rfl
    · exact first.placed.1
    · exact second.placed.1
  refine ⟨first.contains_outside_iff outside, ?_⟩
  intro whole
  obtain ⟨-, placed, count⟩ := first.placed
  have ends : c.policy = .strict ∨ (c.pool kind).count.toNat ∣ (c.pool kind).span :=
    whole.imp_left fun strict => by rw [Configuration.policy, strict]; rfl
  have held := (Placement.holds_of_place placed count ends).2
  rw [← Bool.not_eq_true, Block.contains_iff]
  intro covered
  rw [← Bool.not_eq_true, Pool.contains_iff, ← Finset.mem_Icc] at outside
  exact outside (held covered)

/-- Settings that wrap blocks of 3000 ids in a pool of 10000, which is not made of whole
blocks. -/
def ragged : Configuration := { Configuration.default with
  uidMax := 200000
  userPool := ⟨100000, 109999, 3000⟩
  skipIfExists := false
  allowWrap := true }

/-- A block that runs past the pool's maximum, and one that does not. -/
def tailBlock : Block := ⟨109000, 3000, by decide, by decide⟩

@[inherit_doc tailBlock]
def innerBlock : Block := ⟨103000, 3000, by decide, by decide⟩

theorem gives_tailBlock : Gives ragged .user ⟨"ann", 110003⟩ tailBlock :=
  ⟨.standard, true, .start .empty true,
    .planned tailBlock "/usr/sbin/usermod --add-subuids 109000-111999 ann", by decide +kernel, rfl⟩

theorem gives_innerBlock : Gives ragged .user ⟨"bob", 1001⟩ innerBlock :=
  ⟨.standard, false, .start .empty true, .applied innerBlock, by decide +kernel, rfl⟩

/-- Of the two users, the first is covered by the block that it gets, and the second, whose
user id is below the pool, is not. -/
theorem gives_contains_iff_ragged :
    (tailBlock.contains 110003 = true ↔ ragged.userPool.max < 110003 ∧ 110003 ≤ tailBlock.last) ∧
      (tailBlock.contains 1001 = true ↔ ragged.userPool.max < 1001 ∧ 1001 ≤ tailBlock.last) :=
  have both := gives_contains_iff gives_tailBlock gives_innerBlock
  ⟨(both 110003 List.mem_cons_self).1, (both 1001 (List.mem_cons_of_mem _ List.mem_cons_self)).1⟩

/-- Blocks do not keep clear of the user ids that pass: a wrapped block can cover the very
user who gets it. -/
theorem wrapped_covers_own :
    ¬∀ (c : Configuration) (kind : Kind) (u v : Account) (a b : Block),
      Gives c kind u a → Gives c kind v b → a.contains u.uid = false ∧ a.contains v.uid = false := by
  intro clear
  have covered : tailBlock.contains 110003 = true := by decide
  have missed := (clear ragged .user _ _ tailBlock _ gives_tailBlock gives_tailBlock).1
  rw [covered] at missed
  cases missed

end SubordinateIds.Assignment
