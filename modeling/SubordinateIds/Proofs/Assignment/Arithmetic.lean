import SubordinateIds.Proofs.Assignment.Wrapping
import SubordinateIds.Proofs.Placement.Capacity
import SubordinateIds.Proofs.Placement.Watched

/-
  Arithmetic — which faults of numbers can be met, and which cannot

  No operation on words leaves its type, however the bounds of a pool are chosen
  (`Watched`). Beyond that, some of the faults that are provided for never come up. The
  wrapping policy has no overflow. A run looks at the window before it places a block, so no
  user below the floor gets that far. Under the strict policy a block that was placed is a
  block, so that the account tool is never refused one.

  `Blames` says for each fault of a kind which step it came from. It is the one place where
  the courses of a kind are gone through here.
-/

namespace SubordinateIds

theorem Block.exists_of_iff {start count : UInt32} :
    (∃ block, Block.of start count = .ok block) ↔
      0 < count.toNat ∧ start.toNat + count.toNat - 1 ≤ 2 ^ 32 - 1 := by
  constructor
  · intro made
    obtain ⟨block, made⟩ := made
    obtain ⟨rfl, rfl⟩ := Block.of_eq_ok_iff.mp made
    have pos := block.count_pos
    have fits := block.fits
    simp only [UInt32.size] at fits
    omega
  · intro sound
    obtain ⟨pos, ends⟩ := sound
    have fits : start.toNat + count.toNat ≤ UInt32.size := by
      simp only [UInt32.size]
      omega
    exact ⟨⟨start, count, pos, fits⟩, Block.of_eq_ok_iff.mpr ⟨rfl, rfl⟩⟩

namespace Placement

variable {policy : Policy} {floor uid start : UInt32} {pool : Pool}

theorem place_ne_belowFloor (above : floor ≤ uid) {uid' floor' : UInt32} :
    place policy floor pool uid ≠ .error (.belowFloor uid' floor') := by
  intro failed
  have strict : place .strict floor pool uid = .error (.belowFloor uid' floor') := by
    cases policy with
    | strict => exact failed
    | wrap => exact (wrap_eq_error_iff.mp failed).2
  cases place_strict_eq_iff.mp strict with
  | belowFloor below => exact absurd above (UInt32.not_le.mpr below)

theorem wrap_ne_overflow {uid' : UInt32} :
    place .wrap floor pool uid ≠ .error (.overflow uid') := by
  intro failed
  obtain ⟨common, -⟩ := wrap_eq_error_iff.mp failed
  cases common

theorem of_ne_error_of_strict (placed : place .strict floor pool uid = .ok start)
    {fault : Block.Fault} : Block.of start pool.count ≠ .error fault := by
  obtain ⟨block, lays⟩ := exists_lays placed (block_le_maximum placed (.inl rfl))
  have starts := Except.ok.inj (placed.symm.trans lays.start)
  rw [Block.of_eq_ok_iff.mpr ⟨starts.symm, lays.count⟩]
  simp

end Placement

theorem Configuration.checkWindow_eq_ok_iff {c : Configuration} {uid : UInt32} :
    c.checkWindow uid = .ok () ↔ c.uidMin ≤ uid ∧ uid ≤ c.uidMax := by
  unfold checkWindow
  simp only [Bool.or_eq_true, decide_eq_true_eq, gt_iff_lt]
  split
  · rename_i outside
    simp only [reduceCtorEq, false_iff, not_and, UInt32.not_le]
    intro above
    exact outside.resolve_left (UInt32.not_lt.mpr above)
  · rename_i inside
    rw [not_or, UInt32.not_lt, UInt32.not_lt] at inside
    exact iff_of_true rfl inside

namespace Assignment

open Machine (Answer)
open Placement (place)

namespace Task

variable {w : Task} {kind : Kind} {answers : List Answer}

/-- The step that a fault of a kind came from, with what that step was given. -/
inductive Blames (w : Task) (kind : Kind) : Fault → Prop where
  | overlap {fault : Pool.Overlap}
      (inside : (w.configuration.pool kind).checkApart kind w.account.uid = .error fault) :
      Blames w kind (.overlap fault)
  | presence {asked : List Answer} {fault : Tools.Fault}
      (queried : w.Queries kind asked (.error fault)) :
      Blames w kind (.presence kind w.account.name fault)
  | placement {fault : Placement.Fault} (placed : place w.configuration.policy
      w.configuration.uidMin (w.configuration.pool kind) w.account.uid = .error fault) :
      Blames w kind (.placement kind w.account.name fault)
  | grant {granted : List Answer} {start : UInt32} {fault : Tools.Fault}
      (placed : place w.configuration.policy w.configuration.uidMin
        (w.configuration.pool kind) w.account.uid = .ok start)
      (grants : w.Grants kind start (w.configuration.pool kind).count granted (.error fault)) :
      Blames w kind (.grant kind w.account.name fault)

theorem Serves.blames {fault : Fault} (h : w.Serves kind answers (.error fault)) :
    w.Blames kind fault := by
  generalize came : (.error fault : Except Fault Outcome) = r at h
  cases h with
  | overlap inside =>
    cases came
    exact .overlap inside
  | unanswered outside passes =>
    cases came
    generalize came : (.error fault : Except Fault Bool) = r at passes
    cases passes with
    | unasked => cases came
    | @asked answers r on queried =>
      cases r with
      | ok presence => cases came
      | error fault =>
        cases came
        exact .presence queried
  | passedOver => cases came
  | unplaced outside passes placed =>
    cases came
    exact .placement placed
  | @placed asked granted start r outside passes placed grants =>
    cases r with
    | ok grant => cases came
    | error fault =>
      cases came
      exact .grant placed grants

/-- A grant tells of a bad block only if there is no block to be granted. -/
theorem Grants.of_badBlock {start count : UInt32} {fault : Block.Fault}
    (h : w.Grants kind start count answers (.error (.badBlock fault))) :
    Block.of start count = .error fault := by
  generalize came : (.error (.badBlock fault) : Except Tools.Fault Tools.Grant) = r at h
  cases h with
  | badName => cases came
  | badBlock checked made =>
    cases came
    exact made
  | planned => cases came
  | applied => cases came
  | @failed block ending =>
    -- a tool that ends badly is another fault, whichever way it ends
    cases ending with
    | error error => cases came
    | ok exit => cases exit <;> cases came

end Task

/-- No run tells that the user is below the floor: it looks at the window first. -/
theorem Run.ne_belowFloor {r : Run} {kind : Kind} {name : String} {uid floor : UInt32} :
    r.result ≠ .error (.placement kind name (.belowFloor uid floor)) := by
  intro failed
  cases Run.failsFirst failed with
  | @kind account c fault before after kind asked last outcomes found loaded inside kinds
      answered earlier fails =>
    cases fails.blames with
    | placement placed =>
      have above := (Configuration.checkWindow_eq_ok_iff.mp inside).1
      exact Placement.place_ne_belowFloor above placed

theorem serve_ne_badBlock {tools : Tools} {account : Account} {c : Configuration}
    {dryRun : Bool} {kind told : Kind} {s : Session} {name : String} {fault : Block.Fault}
    (strict : c.allowWrap = false) :
    ((serve tools account c dryRun kind).run s).1 ≠ .error (.grant told name (.badBlock fault)) := by
  intro failed
  obtain ⟨cs, -, course⟩ := Task.serve_course (Prod.ext failed rfl)
  cases course.blames with
  | grant placed grants =>
    have policy : c.policy = .strict := by rw [Configuration.policy, strict]; rfl
    simp only [Task.ofSession, policy] at placed
    exact Placement.of_ne_error_of_strict placed grants.of_badBlock

/-- No operation on words that goes unchecked leaves its type: with every one of them watched,
spans, placements, blocks and last ids come out the same, for all operands. The wrapping
policy never overflows; a start and a size make a block exactly if they name one; no run
tells that a user is below the floor; and under the strict policy the account tool is never
refused a block. -/
theorem arithmetic_faultless :
    (∀ pool, Watched.span pool = some pool.span?) ∧
    (∀ policy floor pool uid,
      Watched.place policy floor pool uid = some (place policy floor pool uid)) ∧
    (∀ start count, Watched.block start count =
      some ((Block.of start count).map fun b => (b.start, b.count))) ∧
    (∀ block, Watched.last block = some block.last) ∧
    (∀ floor pool uid uid', place .wrap floor pool uid ≠ .error (.overflow uid')) ∧
    (∀ start count, (∃ block, Block.of start count = .ok block) ↔
      0 < count.toNat ∧ start.toNat + count.toNat - 1 ≤ 2 ^ 32 - 1) ∧
    (∀ (r : Run) kind name uid floor,
      r.result ≠ .error (.placement kind name (.belowFloor uid floor))) ∧
    ∀ tools account (c : Configuration) dryRun kind s told name fault, c.allowWrap = false →
      ((serve tools account c dryRun kind).run s).1 ≠
        .error (.grant told name (.badBlock fault)) := by
  refine ⟨Watched.span_eq, Watched.place_eq, Watched.block_eq, Watched.last_eq, ?_, ?_, ?_, ?_⟩
  · intro floor pool uid uid'
    exact Placement.wrap_ne_overflow
  · intro start count
    exact Block.exists_of_iff
  · intro r kind name uid floor
    exact Run.ne_belowFloor
  · intro tools account c dryRun kind s told name fault strict
    exact serve_ne_badBlock strict

/-- Settings with a pool that ends at the largest word and is not made of whole blocks. -/
def brim : Configuration := { Configuration.default with
  userPool := ⟨4294967046, 4294967295, 100⟩
  skipIfExists := false }

/-- The third user of the pool is refused by the placement, not for want of a block. Only if
wrapping were allowed, the account tool would be refused the block. -/
theorem arithmetic_faultless_brim :
    ((serve .standard ⟨"ann", 1002⟩ brim false .user).run (.start .empty true)).1 ≠
        .error (.grant .user "ann" (.badBlock (.endOverflow 4294967246 100))) ∧
      ((serve .standard ⟨"ann", 1002⟩ brim.withWrap false .user).run (.start .empty true)).1 =
        .error (.grant .user "ann" (.badBlock (.endOverflow 4294967246 100))) := by
  obtain ⟨-, -, -, -, -, -, -, unrefused⟩ := arithmetic_faultless
  refine ⟨?_, by decide +kernel⟩
  exact unrefused .standard ⟨"ann", 1002⟩ brim false .user (.start .empty true) .user "ann" _ rfl

end Assignment

end SubordinateIds
