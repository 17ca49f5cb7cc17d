/-
  Blocks — consecutive subordinate ids that belong to one user

  A block is never empty and its last id is a 32-bit number; both are part of
  the type. `Block.of` is the only way to a block from a start and a size that
  come from elsewhere.

  Correspondence (program ↔ model):
    `SubidRange`                             ↔ `Block`
    `SubidRange::new`                        ↔ `of`
    `SubidRange::end`                        ↔ `last`
    `RangeError::ZeroCount`, `::EndOverflow` ↔ `Fault`
    `SubidRange` as text                     ↔ `render`
-/

namespace SubordinateIds

/-- Ids in a row, by the first of them and their number. -/
structure Block where
  start : UInt32
  count : UInt32
  count_pos : 0 < count.toNat
  fits : start.toNat + count.toNat ≤ UInt32.size
  deriving DecidableEq, Repr

namespace Block

/-- Why a start and a size make no block. -/
inductive Fault where
  | zeroCount
  | endOverflow (start count : UInt32)
  deriving DecidableEq, Repr

/-- The wording of a fault. -/
def Fault.message : Fault → String
  | .zeroCount => "subordinate id count must be greater than zero"
  | .endOverflow start count =>
    s!"range end overflows 32-bit id space (start {start}, count {count})"

/-- The block with this start and size, if there is one. -/
def of (start count : UInt32) : Except Fault Block :=
  if h : 0 < count.toNat then
    if fits : start.toNat + count.toNat ≤ UInt32.size then .ok ⟨start, count, h, fits⟩
    else .error (.endOverflow start count)
  else .error .zeroCount

/-- The last id of the block. -/
def last (b : Block) : UInt32 := b.start + (b.count - 1)

/-- The first and the last id, with a hyphen between them. -/
def render (b : Block) : String := s!"{b.start}-{b.last}"

/-- Whether the id belongs to the block. -/
def contains (b : Block) (id : UInt32) : Bool := b.start ≤ id && id ≤ b.last

theorem toNat_last (b : Block) : b.last.toNat = b.start.toNat + (b.count.toNat - 1) := by
  have h := b.count_pos
  have f := b.fits
  have one : (b.count - 1).toNat = b.count.toNat - 1 := by
    rw [UInt32.toNat_sub_of_le]
    · rfl
    · rw [UInt32.le_iff_toNat_le]; exact h
  simp only [last, UInt32.toNat_add, one]
  exact Nat.mod_eq_of_lt (by simp only [UInt32.size] at f; omega)

end Block

end SubordinateIds
