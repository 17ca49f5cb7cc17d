import SubordinateIds.Pool

/-
  Placement — where the block of a user starts

  The place of a block depends on nothing but the user id, the lowest user id
  that gets a block, and the pool. The user `offset` places above the lowest one
  gets the ids from `min + offset * count` on. Under the strict policy a block
  that would leave the pool is refused; under the wrapping policy
  `offset * count` is reduced modulo the pool's span, so that the start always
  lies in the pool.

  All arithmetic is that of machine words; the operations that could leave
  32 bits are checked (`add?`, `mul?`).

  Correspondence (program ↔ model):
    `AllocationMode`                  ↔ `Policy`
    `AllocationMode::from_allow_wrap` ↔ `Policy.ofAllowWrap`
    `RangeError`                      ↔ `Fault`
    `allocate`                        ↔ `place`
    `allocate_strict`                 ↔ `strict`
    `allocate_wrapped`                ↔ `wrapped`
-/

namespace SubordinateIds.Placement

/-- What becomes of a block that does not fit where it belongs. -/
inductive Policy where
  | strict
  | wrap
  deriving DecidableEq, Repr

/-- The policy for a configuration that allows wrapping, or does not. -/
def Policy.ofAllowWrap (allowed : Bool) : Policy := if allowed then .wrap else .strict

/-- Why a user gets no block. -/
inductive Fault where
  | belowFloor (uid floor : UInt32)
  | zeroCount
  | inverted (min max : UInt32)
  | insufficient (count : UInt32) (space : UInt64) (min max : UInt32)
  | overflow (uid : UInt32)
  | pastMaximum (uid last max : UInt32)
  deriving DecidableEq, Repr

/-- The wording of a fault. -/
def Fault.message : Fault → String
  | .belowFloor uid floor => s!"uid {uid} is below UID_MIN {floor}"
  | .zeroCount => "subordinate id count must be greater than zero"
  | .inverted min max => s!"subordinate id range is inverted ({min} > {max})"
  | .insufficient count space min max =>
    s!"count {count} exceeds available space {space} in range {min}-{max}"
  | .overflow uid => s!"subordinate id arithmetic overflow for uid {uid}"
  | .pastMaximum uid last max =>
    s!"subordinate id range for uid {uid} ends at {last}, past maximum {max}"

/-- The sum, if it is a 32-bit number. -/
def add? (a b : UInt32) : Option UInt32 :=
  if a.toNat + b.toNat < UInt32.size then some (a + b) else none

/-- The product, if it is a 32-bit number. -/
def mul? (a b : UInt32) : Option UInt32 :=
  if a.toNat * b.toNat < UInt32.size then some (a * b) else none

/-- The start of the block `offset` blocks above the pool's minimum, if the
whole block lies in the pool. -/
def strict (uid offset : UInt32) (pool : Pool) : Except Fault UInt32 :=
  match (mul? offset pool.count).bind (add? pool.min) with
  | none => .error (.overflow uid)
  | some start =>
    match add? start (pool.count - 1) with
    | none => .error (.overflow uid)
    | some last => if last > pool.max then .error (.pastMaximum uid last pool.max) else .ok start

/-- The start of the block `offset` blocks above the pool's minimum, counted
around a pool of `space` ids. -/
def wrapped (uid offset : UInt32) (pool : Pool) (space : UInt64) : Except Fault UInt32 :=
  let reduced := offset.toUInt64 * pool.count.toUInt64 % space
  if reduced.toNat < UInt32.size then
    match add? pool.min reduced.toUInt32 with
    | some start => .ok start
    | none => .error (.overflow uid)
  else .error (.overflow uid)

/-- The start of the user's block. `floor` is the lowest user id that gets a
block. -/
def place (policy : Policy) (floor : UInt32) (pool : Pool) (uid : UInt32) : Except Fault UInt32 :=
  if uid < floor then .error (.belowFloor uid floor)
  else if pool.count = 0 then .error .zeroCount
  else
    match pool.span? with
    | none => .error (.inverted pool.min pool.max)
    | some space =>
      if pool.count.toUInt64 > space then
        .error (.insufficient pool.count space pool.min pool.max)
      else
        match policy with
        | .strict => strict uid (uid - floor) pool
        | .wrap => wrapped uid (uid - floor) pool space

end SubordinateIds.Placement
