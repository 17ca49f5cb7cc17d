import SubordinateIds.Proofs.Placement

/-
  Watched arithmetic — the operations that nothing checks

  Some operations of a placement and of a block are carried out without a check, since an
  earlier test has made them safe: the distance from the floor, the last id of a block, the
  span, the product and the remainder. Here they are watched. The same steps are taken in
  the same order, but an unchecked operation whose exact result is no word of its width, or
  that divides by zero, gives nothing, and then the whole gives nothing.

  That the watched steps always give what the unwatched ones give says that no such
  operation is ever reached with operands it cannot take.
-/

namespace SubordinateIds.Watched

open Placement (Fault Policy add? mul? toNat_sub_one)

/-- The difference, if it is not below zero. -/
def sub32? (a b : UInt32) : Option UInt32 := if b.toNat ≤ a.toNat then some (a - b) else none

@[inherit_doc sub32?]
def sub64? (a b : UInt64) : Option UInt64 := if b.toNat ≤ a.toNat then some (a - b) else none

/-- The sum, if it is a 64-bit number. -/
def add64? (a b : UInt64) : Option UInt64 :=
  if a.toNat + b.toNat < UInt64.size then some (a + b) else none

/-- The product, if it is a 64-bit number. -/
def mul64? (a b : UInt64) : Option UInt64 :=
  if a.toNat * b.toNat < UInt64.size then some (a * b) else none

/-- The remainder, if there is something to divide by. -/
def mod64? (a b : UInt64) : Option UInt64 := if b.toNat = 0 then none else some (a % b)

/-- The number of ids within the bounds. -/
def span (pool : Pool) : Option (Option UInt64) :=
  if pool.min > pool.max then some none
  else do
    let width ← sub64? pool.max.toUInt64 pool.min.toUInt64
    let space ← add64? width 1
    return some space

/-- The start under the strict policy. The three steps that are checked stay as they are. -/
def strict (uid offset : UInt32) (pool : Pool) : Option (Except Fault UInt32) :=
  match (mul? offset pool.count).bind (add? pool.min) with
  | none => some (.error (.overflow uid))
  | some start => do
    let rest ← sub32? pool.count 1
    match add? start rest with
    | none => return .error (.overflow uid)
    | some last =>
      if last > pool.max then return .error (.pastMaximum uid last pool.max) else return .ok start

/-- The start under the wrapping policy. -/
def wrapped (uid offset : UInt32) (pool : Pool) (space : UInt64) :
    Option (Except Fault UInt32) := do
  let distance ← mul64? offset.toUInt64 pool.count.toUInt64
  let reduced ← mod64? distance space
  if reduced.toNat < UInt32.size then
    match add? pool.min reduced.toUInt32 with
    | some start => return .ok start
    | none => return .error (.overflow uid)
  else return .error (.overflow uid)

/-- The start of the user's block. -/
def place (policy : Policy) (floor : UInt32) (pool : Pool) (uid : UInt32) :
    Option (Except Fault UInt32) :=
  if uid < floor then some (.error (.belowFloor uid floor))
  else if pool.count = 0 then some (.error .zeroCount)
  else do
    match ← span pool with
    | none => return .error (.inverted pool.min pool.max)
    | some space =>
      if pool.count.toUInt64 > space then
        return .error (.insufficient pool.count space pool.min pool.max)
      else
        let offset ← sub32? uid floor
        match policy with
        | .strict => strict uid offset pool
        | .wrap => wrapped uid offset pool space

/-- The start and the size of a block, if they make one. -/
def block (start count : UInt32) : Option (Except Block.Fault (UInt32 × UInt32)) :=
  if count = 0 then some (.error .zeroCount)
  else do
    let sum ← add64? start.toUInt64 count.toUInt64
    let last ← sub64? sum 1
    if last > 4294967295 then return .error (.endOverflow start count)
    else return .ok (start, count)

/-- The last id of a block. -/
def last (b : Block) : Option UInt32 := do
  let rest ← sub32? b.count 1
  add? b.start rest

/-! ## Nothing is lost by watching -/

variable {uid offset : UInt32} {pool : Pool}

theorem sub32?_eq {a b : UInt32} (h : b.toNat ≤ a.toNat) : sub32? a b = some (a - b) := if_pos h

theorem sub64?_eq {a b : UInt64} (h : b.toNat ≤ a.toNat) : sub64? a b = some (a - b) := if_pos h

theorem add64?_eq {a b : UInt64} (h : a.toNat + b.toNat < UInt64.size) :
    add64? a b = some (a + b) := if_pos h

theorem mul64?_eq {a b : UInt64} (h : a.toNat * b.toNat < UInt64.size) :
    mul64? a b = some (a * b) := if_pos h

theorem mod64?_eq {a b : UInt64} (h : b.toNat ≠ 0) : mod64? a b = some (a % b) := if_neg h

theorem span_eq (pool : Pool) : span pool = some pool.span? := by
  unfold span Pool.span?
  split
  · rfl
  · rename_i ordered
    rw [gt_iff_lt, UInt32.not_lt, UInt32.le_iff_toNat_le] at ordered
    have high := pool.max.toNat_lt
    have below : pool.min.toUInt64.toNat ≤ pool.max.toUInt64.toNat := by
      rw [UInt32.toNat_toUInt64, UInt32.toNat_toUInt64]
      exact ordered
    have room : (pool.max.toUInt64 - pool.min.toUInt64).toNat + (1 : UInt64).toNat <
        UInt64.size := by
      rw [Pool.toNat_sub_toUInt64 ordered, UInt64.toNat_one, UInt64.size]
      omega
    rw [sub64?_eq below, Option.bind_eq_bind, Option.bind_some, add64?_eq room]
    rfl

theorem strict_eq (pos : 0 < pool.count.toNat) :
    strict uid offset pool = some (Placement.strict uid offset pool) := by
  have rest : sub32? pool.count 1 = some (pool.count - 1) := sub32?_eq pos
  unfold strict Placement.strict
  cases (mul? offset pool.count).bind (add? pool.min) with
  | none => rfl
  | some start =>
    simp only [rest, Option.bind_eq_bind, Option.bind_some]
    cases add? start (pool.count - 1) with
    | none => rfl
    | some last =>
      by_cases past : last > pool.max
      · simp only [if_pos past]
        rfl
      · simp only [if_neg past]
        rfl

theorem wrapped_eq {space : UInt64} (spanned : pool.span? = some space) :
    wrapped uid offset pool space = some (Placement.wrapped uid offset pool space) := by
  obtain ⟨ordered, whole⟩ := Pool.span?_eq_some_iff.mp spanned
  have size : pool.span = pool.max.toNat + 1 - pool.min.toNat := rfl
  have room := Pool.toUInt64_mul_lt offset pool.count
  have some : space.toNat ≠ 0 := by omega
  unfold wrapped Placement.wrapped
  simp only [mul64?_eq room, mod64?_eq some, Option.bind_eq_bind, Option.bind_some]
  by_cases small : (offset.toUInt64 * pool.count.toUInt64 % space).toNat < UInt32.size
  · simp only [if_pos small]
    cases add? pool.min (offset.toUInt64 * pool.count.toUInt64 % space).toUInt32 with
    | none => rfl
    | some start => rfl
  · simp only [if_neg small]
    rfl

theorem place_eq (policy : Policy) (floor : UInt32) (pool : Pool) (uid : UInt32) :
    place policy floor pool uid = some (Placement.place policy floor pool uid) := by
  unfold place Placement.place
  split
  · rfl
  rename_i above
  split
  · rfl
  rename_i nonzero
  have pos : 0 < pool.count.toNat :=
    Nat.pos_of_ne_zero fun zero => nonzero (UInt32.toNat_inj.mp zero)
  rw [UInt32.not_lt, UInt32.le_iff_toNat_le] at above
  -- what each unchecked operation needs is what the tests before it have left
  rw [span_eq, Option.bind_eq_bind, Option.bind_some]
  cases spanned : pool.span? with
  | none => rfl
  | some space =>
    simp only
    split
    · rfl
    · rw [sub32?_eq above, Option.bind_eq_bind, Option.bind_some]
      cases policy with
      | strict => exact strict_eq pos
      | wrap => exact wrapped_eq spanned

theorem block_eq (start count : UInt32) :
    block start count = some ((Block.of start count).map fun b => (b.start, b.count)) := by
  have low := start.toNat_lt
  have high := count.toNat_lt
  unfold block Block.of
  split
  · rename_i zero
    subst zero
    rfl
  · rename_i nonzero
    have pos : 0 < count.toNat :=
      Nat.pos_of_ne_zero fun zero => nonzero (UInt32.toNat_inj.mp zero)
    have room : start.toUInt64.toNat + count.toUInt64.toNat < UInt64.size := by
      rw [UInt32.toNat_toUInt64, UInt32.toNat_toUInt64, UInt64.size]
      omega
    have sum : (start.toUInt64 + count.toUInt64).toNat = start.toNat + count.toNat := by
      rw [UInt64.toNat_add, UInt32.toNat_toUInt64, UInt32.toNat_toUInt64]
      exact Nat.mod_eq_of_lt (by omega)
    have one : (1 : UInt64).toNat ≤ (start.toUInt64 + count.toUInt64).toNat := by
      rw [sum, UInt64.toNat_one]
      omega
    have last : (start.toUInt64 + count.toUInt64 - 1).toNat = start.toNat + count.toNat - 1 := by
      rw [UInt64.toNat_sub_of_le _ _ (UInt64.le_iff_toNat_le.mpr one), sum, UInt64.toNat_one]
    have large : start.toUInt64 + count.toUInt64 - 1 > 4294967295 ↔
        ¬start.toNat + count.toNat ≤ UInt32.size := by
      rw [gt_iff_lt, UInt64.lt_iff_toNat_lt, last, UInt32.size]
      simp only [UInt64.reduceToNat]
      omega
    rw [dif_pos pos, add64?_eq room, Option.bind_eq_bind, Option.bind_some, sub64?_eq one,
      Option.bind_some]
    by_cases fits : start.toNat + count.toNat ≤ UInt32.size
    · rw [if_neg (large.not.mpr (not_not.mpr fits)), dif_pos fits]
      rfl
    · rw [if_pos (large.mpr fits), dif_neg fits]
      rfl

theorem last_eq (b : Block) : last b = some b.last := by
  have pos := b.count_pos
  unfold last
  rw [sub32?_eq (show (1 : UInt32).toNat ≤ b.count.toNat from pos), Option.bind_eq_bind,
    Option.bind_some, Placement.add?_eq_some_iff, b.toNat_last, toNat_sub_one pos]

end SubordinateIds.Watched
