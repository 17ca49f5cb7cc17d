import SubordinateIds.Proofs.Assignment.Collision

/-
  Wrapping — what the wrapping policy changes, and what it leaves as it was

  The two policies make the same tests first, and a fault of these is a fault under both.
  After them the strict policy refuses blocks that leave the pool, and the wrapping policy
  refuses nothing. Where the strict policy does place a block, the wrapping policy places
  the same one. So to allow wrapping never moves a block: it only gives blocks to users who
  had none.

  For a kind as a whole this means that the policy need not be known once the strict one
  came to a block: everything that is done then is done alike (`serve_congr`).
-/

namespace SubordinateIds

namespace Placement

variable {floor uid start : UInt32} {pool : Pool} {fault : Fault}

theorem Fault.Common.strict_ne {offset : UInt32} (common : fault.Common) :
    strict uid offset pool ≠ .error fault := by
  intro failed
  unfold strict at failed
  split at failed
  · cases failed
    cases common
  · split at failed
    · cases failed
      cases common
    · split at failed
      · cases failed
        cases common
      · cases failed

theorem exists_wrapped {offset : UInt32} {space : UInt64} (spanned : pool.span? = some space) :
    ∃ start, wrapped uid offset pool space = .ok start := by
  obtain ⟨ordered, whole⟩ := Pool.span?_eq_some_iff.mp spanned
  have size : pool.span = pool.max.toNat + 1 - pool.min.toNat := rfl
  have high := pool.max.toNat_lt
  have below := Nat.mod_lt (offset.toNat * pool.count.toNat) (show 0 < pool.span by omega)
  refine ⟨.ofNat (pool.min.toNat + offset.toNat * pool.count.toNat % pool.span), ?_⟩
  rw [wrapped_eq_ok_iff ordered whole, toNat_ofNat (by omega)]

/-- A block that the strict policy places stays where it is: its distance from the minimum
is below the span, so that nothing is left to be reduced. -/
theorem wrap_of_strict (placed : place .strict floor pool uid = .ok start) :
    place .wrap floor pool uid = .ok start := by
  rw [place_eq_ok_iff] at placed ⊢
  obtain ⟨above, pos, room, distance, inside⟩ := placed
  refine ⟨above, pos, room, ?_⟩
  have size : pool.span = pool.max.toNat + 1 - pool.min.toNat := rfl
  have small : (uid.toNat - floor.toNat) * pool.count.toNat < pool.span := by omega
  rw [Nat.mod_eq_of_lt small]
  exact distance

theorem wrap_eq_error_iff :
    place .wrap floor pool uid = .error fault ↔
      fault.Common ∧ place .strict floor pool uid = .error fault := by
  rcases place_cases floor pool uid with ⟨fault', common, fails⟩ | ⟨space, spanned, -, strict, wrap⟩
  · rw [fails, fails]
    constructor
    · intro same
      cases same
      exact ⟨common, rfl⟩
    · exact And.right
  · obtain ⟨start, placed⟩ : ∃ start, wrapped uid (uid - floor) pool space = .ok start :=
      exists_wrapped spanned
    rw [wrap, placed, strict]
    constructor
    · intro failed
      cases failed
    · intro failed
      exact absurd failed.2 failed.1.strict_ne

theorem exists_wrap_of_strict_error (failed : place .strict floor pool uid = .error fault)
    (rare : ¬fault.Common) :
    ∃ start, place .wrap floor pool uid = .ok start ∧ pool.min ≤ start ∧ start ≤ pool.max ∧
      floor ≤ uid ∧ start.toNat = pool.min.toNat +
        (uid.toNat - floor.toNat) * pool.count.toNat % (pool.max.toNat - pool.min.toNat + 1) := by
  cases wrapped : place .wrap floor pool uid with
  | error fault' =>
    -- then the strict policy would have failed with this one, which is a common fault
    obtain ⟨common, failed'⟩ := wrap_eq_error_iff.mp wrapped
    rw [failed] at failed'
    cases failed'
    exact absurd common rare
  | ok start =>
    obtain ⟨above, -, -, distance⟩ := place_eq_ok_iff.mp wrapped
    obtain ⟨low, high⟩ := start_le_maximum wrapped
    have size : pool.span = pool.max.toNat - pool.min.toNat + 1 := by
      rw [Pool.span]
      omega
    simp only [size] at distance
    simp only [UInt32.le_iff_toNat_le]
    exact ⟨start, rfl, low, high, above, distance⟩

end Placement

/-- The configuration with wrapping allowed, and all else as it was. -/
def Configuration.withWrap (c : Configuration) : Configuration := { c with allowWrap := true }

namespace Assignment

open Placement (place)

/-- Serving a kind depends on the configuration through the question that is asked first,
the pool, and the place of the block. -/
theorem serve_congr {tools : Tools} {account : Account} {c c' : Configuration} {dryRun : Bool}
    {kind : Kind} (asked : c.skipIfExists = c'.skipIfExists) (pool : c.pool kind = c'.pool kind)
    (placed : place c.policy c.uidMin (c.pool kind) account.uid =
      place c'.policy c'.uidMin (c'.pool kind) account.uid) :
    serve tools account c dryRun kind = serve tools account c' dryRun kind := by
  rw [pool] at placed
  unfold serve isServed
  simp only [asked, pool, placed]

/-- To allow wrapping moves no block. A block that the strict policy places is placed where
it was. What fails before the policy fails with the same fault, and nothing else fails any
more: a user whose block would leave the pool gets one that starts in it, at the distance
that is left modulo the span. So a kind for which the strict policy came to a block is
served in the same way, command by command. -/
theorem wrapping_moves_nothing :
    (∀ floor uid pool,
      (∀ start, place .strict floor pool uid = .ok start → place .wrap floor pool uid = .ok start) ∧
      (∀ fault : Placement.Fault, place .wrap floor pool uid = .error fault ↔
        fault.Common ∧ place .strict floor pool uid = .error fault) ∧
      ∀ fault : Placement.Fault, place .strict floor pool uid = .error fault → ¬fault.Common →
        ∃ start, place .wrap floor pool uid = .ok start ∧ pool.min ≤ start ∧ start ≤ pool.max ∧
          floor ≤ uid ∧ start.toNat = pool.min.toNat +
            (uid.toNat - floor.toNat) * pool.count.toNat %
              (pool.max.toNat - pool.min.toNat + 1)) ∧
    ∀ (tools : Tools) (account : Account) (c : Configuration) (dryRun : Bool) (kind : Kind)
      (s : Session) (grant : Tools.Grant), c.allowWrap = false →
      ((serve tools account c dryRun kind).run s).1 = .ok (.granted grant) →
        (serve tools account c.withWrap dryRun kind).run s =
          (serve tools account c dryRun kind).run s := by
  refine ⟨?_, ?_⟩
  · intro floor uid pool
    exact ⟨fun start => Placement.wrap_of_strict, fun fault => Placement.wrap_eq_error_iff,
      fun fault => Placement.exists_wrap_of_strict_error⟩
  · intro tools account c dryRun kind s grant strict served
    have gives : Gives c kind account grant.block := ⟨tools, dryRun, s, grant, served, rfl⟩
    obtain ⟨-, placed, -⟩ := gives.placed
    have policy : c.policy = .strict := by rw [Configuration.policy, strict]; rfl
    rw [policy] at placed
    have wrapped := Placement.wrap_of_strict placed
    have pool : c.withWrap.pool kind = c.pool kind := by cases kind <;> rfl
    have same : serve tools account c.withWrap dryRun kind = serve tools account c dryRun kind := by
      refine serve_congr rfl pool ?_
      rw [pool, policy, placed]
      exact wrapped
    rw [same]

/-- In the ragged pool the first user keeps its block and is served as before, and the second
one, whose block would leave the pool, gets one that starts in it. -/
theorem wrapping_moves_nothing_ragged :
    place .wrap 1000 ragged.userPool 1001 = .ok 103000 ∧
      (∃ start, place .wrap 1000 ragged.userPool 1004 = .ok start ∧ start.toNat = 102000) ∧
      (serve .standard ⟨"bob", 1001⟩ ragged false .user).run (.start .empty true) =
        (serve .standard ⟨"bob", 1001⟩ { ragged with allowWrap := false } false .user).run
          (.start .empty true) := by
  obtain ⟨placed, served⟩ := wrapping_moves_nothing
  obtain ⟨kept, -, -⟩ := placed 1000 1001 ragged.userPool
  obtain ⟨-, -, moved⟩ := placed 1000 1004 ragged.userPool
  have rare : ¬(Placement.Fault.pastMaximum 1004 114999 109999).Common := nofun
  obtain ⟨start, wrapped, -, -, -, distance⟩ := moved _ (by decide) rare
  exact ⟨kept 103000 (by decide), ⟨start, wrapped, distance⟩,
    served .standard ⟨"bob", 1001⟩ { ragged with allowWrap := false } false .user (.start .empty true)
      (.applied innerBlock) rfl (by decide +kernel)⟩

end Assignment

end SubordinateIds
