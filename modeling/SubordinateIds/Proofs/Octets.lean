import SubordinateIds.Octets

/-
  Octets in the library's terms

  Cutting is the library's cutting of lists, and the order of names is the
  lexicographic order of lists. So names that were sorted are in ascending order,
  strictly if each of them was kept once.

  What cutting gives can be said without the steps of cutting: a piece is what stands
  between one separator and the next, where the beginning and the end of the octets count
  as separators (`mem_splitOn_iff`).
-/

namespace SubordinateIds.Octets

theorem splitOn_eq (sep : UInt8) (bs : Octets) : splitOn sep bs = List.splitOn sep bs := by
  induction bs with
  | nil => rfl
  | cons b bs ih =>
    rw [splitOn_cons, ih, List.splitOn_cons_eq_if_modifyHead]
    obtain ⟨piece, pieces, cut⟩ := List.exists_cons_of_ne_nil (List.splitOn_ne_nil sep bs)
    rw [cut]
    by_cases ends : b = sep <;> simp [splitStep, ends]

theorem not_mem_of_mem_splitOn {sep : UInt8} {bs piece : Octets} (mem : piece ∈ splitOn sep bs) :
    sep ∉ piece := by
  rw [splitOn_eq] at mem
  induction bs generalizing piece with
  | nil =>
    rw [List.splitOn_nil, List.mem_singleton] at mem
    rw [mem]
    exact List.not_mem_nil
  | cons b bs ih =>
    obtain ⟨first, others, cut⟩ := List.exists_cons_of_ne_nil (List.splitOn_ne_nil sep bs)
    rw [List.splitOn_cons_eq_if_modifyHead, cut] at mem
    rw [cut] at ih
    by_cases ends : b = sep
    · rw [if_pos (by simp [ends]), List.mem_cons] at mem
      obtain rfl | mem := mem
      · exact List.not_mem_nil
      · exact ih mem
    · rw [if_neg (by simp [ends]), List.modifyHead_cons, List.mem_cons] at mem
      obtain rfl | mem := mem
      · rw [List.mem_cons, not_or]
        exact ⟨Ne.symm ends, ih List.mem_cons_self⟩
      · exact ih (List.mem_cons_of_mem _ mem)

section Runs

variable {sep : UInt8} {run bs piece : Octets}

theorem hasRun_iff : hasRun run bs = true ↔ run <:+: bs := by
  induction bs with
  | nil => rw [hasRun, List.isEmpty_iff, List.infix_nil]
  | cons b bs ih =>
    rw [hasRun, Bool.or_eq_true, List.isPrefixOf_iff_prefix, ih, List.infix_cons_iff]

/-- A piece can stand between these octets: those in front of it are none or end in a separator,
and those behind it are none or begin with one. -/
structure Frames (sep : UInt8) (front back : Octets) : Prop where
  before : front = [] ∨ front.getLast? = some sep
  after : back = [] ∨ back.head? = some sep

theorem exists_of_mem_splitOn {bs : Octets} (mem : piece ∈ List.splitOn sep bs) :
    ∃ front back, bs = front ++ piece ++ back ∧ Frames sep front back := by
  by_cases inside : sep ∈ bs
  · obtain ⟨first, rest, spelled, flat⟩ := List.eq_append_cons_of_mem inside
    rw [spelled, List.splitOn_append_cons_self_of_not_mem flat, List.mem_cons] at mem
    rcases mem with rfl | mem
    · exact ⟨[], sep :: rest, spelled, .inl rfl, .inr rfl⟩
    · have shorter : rest.length < bs.length := by
        rw [spelled, List.length_append, List.length_cons]
        omega
      obtain ⟨front, back, spelled', start, stop⟩ := exists_of_mem_splitOn mem
      refine ⟨first ++ sep :: front, back, by simp [spelled, spelled'], .inr ?_, stop⟩
      rcases start with rfl | ends
      · simp
      · simp [List.getLast?_append, List.getLast?_cons, ends]
  · rw [List.splitOn_eq_singleton inside, List.mem_singleton] at mem
    exact ⟨[], [], by simp [mem], .inl rfl, .inl rfl⟩
termination_by bs.length

theorem mem_splitOn_iff :
    piece ∈ List.splitOn sep bs ↔
      sep ∉ piece ∧ ∃ front back, bs = front ++ piece ++ back ∧ Frames sep front back := by
  constructor
  · intro mem
    exact ⟨not_mem_of_mem_splitOn (splitOn_eq sep bs ▸ mem), exists_of_mem_splitOn mem⟩
  · intro h
    obtain ⟨flat, front, back, rfl, start, stop⟩ := h
    have last : piece ∈ List.splitOn sep (front ++ piece) := by
      rcases start with rfl | ends
      · simp [List.splitOn_eq_singleton flat]
      · obtain ⟨front, rfl⟩ := List.getLast?_eq_some_iff.mp ends
        rw [List.append_assoc, List.singleton_append, List.splitOn_append_cons_self,
          List.splitOn_eq_singleton flat]
        simp
    rcases stop with rfl | begins
    · rw [List.append_nil]
      exact last
    · obtain ⟨back, rfl⟩ := List.head?_eq_some_iff.mp begins
      rw [List.splitOn_append_cons_self]
      exact List.mem_append_left _ last
end Runs

theorem le_iff {a b : Octets} : le a b = true ↔ a ≤ b := by
  induction a generalizing b with
  | nil => simp [le]
  | cons x a ih =>
    cases b with
    | nil => simp [le]
    | cons y b =>
      rw [List.cons_le_cons_iff, le, Bool.or_eq_true, Bool.and_eq_true, decide_eq_true_iff,
        beq_iff_eq, ih]

theorem pairwise_mergeSort (names : List Octets) : (names.mergeSort le).Pairwise (· ≤ ·) := by
  have sorted : (names.mergeSort le).Pairwise fun a b => le a b = true := by
    apply List.pairwise_mergeSort
    · intro a b c first second
      rw [le_iff] at first second ⊢
      exact List.le_trans first second
    · intro a b
      rw [Bool.or_eq_true, le_iff, le_iff]
      exact List.le_total a b
  exact sorted.imp le_iff.mp

theorem nodup_eraseDups (names : List Octets) : names.eraseDups.Nodup := by
  match names with
  | [] => exact List.nodup_nil
  | name :: rest =>
    rw [List.eraseDups_cons]
    refine List.nodup_cons.mpr ⟨?_, nodup_eraseDups _⟩
    rw [List.mem_eraseDups, List.mem_filter]
    simp
termination_by names.length
decreasing_by simpa using Nat.lt_succ_of_le (List.length_filter_le ..)

/-- Names that were sorted without their repetitions are in strictly ascending order. -/
theorem pairwise_lt_mergeSort (names : List Octets) :
    (names.eraseDups.mergeSort le).Pairwise (· < ·) := by
  have distinct : (names.eraseDups.mergeSort le).Pairwise (· ≠ ·) :=
    (List.mergeSort_perm ..).nodup_iff.mpr (nodup_eraseDups names)
  have strict {a b : Octets} (h : a ≤ b ∧ a ≠ b) : a < b := Std.lt_of_le_of_ne h.1 h.2
  exact ((pairwise_mergeSort _).and distinct).imp strict

end SubordinateIds.Octets
