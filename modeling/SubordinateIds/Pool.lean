import SubordinateIds.Kind

/-
  Pools — the ids of one kind that may be given out

  A pool has a lowest and a highest id, both included, and the number of ids
  that each user gets. Nothing is asked of the bounds when a pool is written
  down: one that is upside down or too small is refused when a block is placed.

  Correspondence (program ↔ model):
    `SubidDomain`                 ↔ `Pool`
    `SubidDomain::contains`       ↔ `contains`
    `SubidDomain::span`           ↔ `span?`
    `validate_uid_subid_overlap`  ↔ `checkApart`
    `ValidationError::UidOverlap` ↔ `Overlap`
-/

namespace SubordinateIds

/-- Bounds of the ids of one kind, and the size of a user's block. -/
structure Pool where
  min : UInt32
  max : UInt32
  count : UInt32
  deriving DecidableEq, Repr

namespace Pool

/-- Whether the id lies within the bounds. -/
def contains (pool : Pool) (id : UInt32) : Bool := pool.min ≤ id && id ≤ pool.max

/-- The number of ids within the bounds, if the bounds are in order. A full pool
has 2 ^ 32, so 64 bits are needed. -/
def span? (pool : Pool) : Option UInt64 :=
  if pool.min > pool.max then none else some (pool.max.toUInt64 - pool.min.toUInt64 + 1)

/-- A user id that lies inside a pool of subordinate ids. -/
structure Overlap where
  uid : UInt32
  kind : Kind
  min : UInt32
  max : UInt32
  deriving DecidableEq, Repr

/-- The wording of an overlap. -/
def Overlap.message (o : Overlap) : String :=
  s!"uid {o.uid} overlaps {o.kind} range {o.min}-{o.max}"

/-- Refuses a user id that lies inside the pool of the kind. -/
def checkApart (pool : Pool) (kind : Kind) (uid : UInt32) : Except Overlap Unit :=
  if pool.contains uid then .error ⟨uid, kind, pool.min, pool.max⟩ else .ok ()

end Pool

end SubordinateIds
