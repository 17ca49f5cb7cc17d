import Mathlib.Order.Interval.Finset.Nat
import SubordinateIds.Block

/-
  Blocks as sets of ids, and as texts

  A block is compared with other blocks and with pools through `ids`, the set of the
  ids it holds: it has as many of them as the block says, and they are the ones the
  block answers for. Two blocks of one start and one size are one block.

  What is handed to the account tool is a text with a hyphen in it. `render_eq` says
  which text it is, and `render_inj` that no two blocks share one: the digits before
  the hyphen end where the hyphen stands.
-/

namespace SubordinateIds

theorem toDigits_inj {m n : Nat} (h : Nat.toDigits 10 m = Nat.toDigits 10 n) : m = n := by
  have values := congrArg (fun cs => Nat.ofDigitChars 10 cs 0) h
  simpa [Nat.ofDigitChars_ten_toDigits] using values

namespace Block

theorem ext_start_count {a b : Block} (start : a.start = b.start) (count : a.count = b.count) :
    a = b := by
  cases a
  cases b
  simp_all

theorem of_eq_ok_iff {start count : UInt32} {b : Block} :
    Block.of start count = .ok b ↔ b.start = start ∧ b.count = count := by
  unfold Block.of
  constructor
  · intro h
    split at h
    · split at h
      · cases h
        exact ⟨rfl, rfl⟩
      · cases h
    · cases h
  · intro h
    obtain ⟨rfl, rfl⟩ := h
    rw [dif_pos b.count_pos, dif_pos b.fits]

/-! ## The ids of a block -/

/-- The ids that belong to the block. -/
def ids (b : Block) : Finset Nat := Finset.Icc b.start.toNat b.last.toNat

theorem mem_ids {b : Block} {n : Nat} :
    n ∈ b.ids ↔ b.start.toNat ≤ n ∧ n < b.start.toNat + b.count.toNat := by
  have pos := b.count_pos
  rw [ids, Finset.mem_Icc, b.toNat_last]
  omega

theorem contains_iff {b : Block} {id : UInt32} : b.contains id = true ↔ id.toNat ∈ b.ids := by
  simp [contains, ids, UInt32.le_iff_toNat_le]

theorem card_ids (b : Block) : b.ids.card = b.count.toNat := by
  have pos := b.count_pos
  rw [ids, Nat.card_Icc, b.toNat_last]
  omega

theorem last_lt_of_le {b : Block} {start : UInt32}
    (above : b.start.toNat + b.count.toNat ≤ start.toNat) : b.last < start := by
  have pos := b.count_pos
  rw [UInt32.lt_iff_toNat_lt, b.toNat_last]
  omega

/-! ## The text of a block -/

theorem render_eq (b : Block) :
    b.render = Nat.repr b.start.toNat ++ "-" ++ Nat.repr (b.start.toNat + b.count.toNat - 1) := by
  have last : b.start.toNat + b.count.toNat - 1 = b.last.toNat := by
    have pos := b.count_pos
    rw [b.toNat_last]
    omega
  rw [last]
  simp [render, toString]

theorem toList_render (b : Block) :
    b.render.toList = Nat.toDigits 10 b.start.toNat ++
      '-' :: Nat.toDigits 10 (b.start.toNat + b.count.toNat - 1) := by
  simp [render_eq, String.toList_append, Nat.toList_repr]

theorem takeWhile_isDigit_render (b : Block) :
    b.render.toList.takeWhile Char.isDigit = Nat.toDigits 10 b.start.toNat := by
  have digits : ∀ c ∈ Nat.toDigits 10 b.start.toNat, c.isDigit = true :=
    fun c hc => Nat.isDigit_of_mem_toDigits (by decide) (by decide) hc
  rw [toList_render, List.takeWhile_append_of_pos digits]
  simp

theorem render_inj {a b : Block} : a.render = b.render ↔ a = b := by
  constructor
  · intro h
    have start : a.start = b.start := by
      apply UInt32.toNat_inj.mp
      apply toDigits_inj
      rw [← takeWhile_isDigit_render a, ← takeWhile_isDigit_render b, h]
    -- what follows the starts is the same too, and tells the ends
    have texts : a.render.toList = b.render.toList := by rw [h]
    rw [toList_render, toList_render, start, List.append_cancel_left_eq, List.cons.injEq] at texts
    have ends := toDigits_inj texts.2
    have posA := a.count_pos
    have posB := b.count_pos
    exact ext_start_count start (UInt32.toNat_inj.mp (by omega))
  · intro same
    subst same
    rfl

end Block

end SubordinateIds
