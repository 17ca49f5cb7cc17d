import Mathlib.Data.List.TakeWhile
import SubordinateIds.Text.Blank

/-
  Trimming — what is cut off, and what is left

  A text is what was left of it with blanks on both sides (`exists_trim`), and what is
  left is empty or begins and ends with a character that is not blank. Conversely such
  a text is left when blanks are put around it and the whole is trimmed (`trim_eq`).
-/

namespace SubordinateIds.Text

/-- The text begins with a character that is not blank. -/
def Begins (cs : List Char) : Prop := ∃ c rest, cs = c :: rest ∧ isBlank c = false

/-- The text ends with a character that is not blank. -/
def Stops (cs : List Char) : Prop := ∃ front c, cs = front ++ [c] ∧ isBlank c = false

variable {before mid after cs : List Char}

theorem Begins.append (h : Begins cs) (more : List Char) : Begins (cs ++ more) := by
  obtain ⟨c, rest, rfl, filled⟩ := h
  exact ⟨c, rest ++ more, rfl, filled⟩

theorem Stops.append (h : Stops cs) (more : List Char) : Stops (more ++ cs) := by
  obtain ⟨front, c, rfl, filled⟩ := h
  exact ⟨more ++ front, c, (List.append_assoc ..).symm, filled⟩

theorem Stops.of_append (h : Stops (before ++ cs)) (filled : cs ≠ []) : Stops cs := by
  obtain ⟨front, c, ending, nonblank⟩ := h
  rcases List.eq_nil_or_concat cs with rfl | ⟨front', d, rfl⟩
  · exact absurd rfl filled
  · rw [List.concat_eq_append] at ending ⊢
    rw [← List.append_assoc] at ending
    obtain ⟨-, last⟩ := List.append_inj' ending rfl
    cases last
    exact ⟨front', _, rfl, nonblank⟩

theorem begins_reverse_iff : Begins cs.reverse ↔ Stops cs := by
  constructor
  · intro h
    obtain ⟨c, rest, reversed, filled⟩ := h
    refine ⟨rest.reverse, c, ?_, filled⟩
    rw [← List.reverse_reverse cs, reversed, List.reverse_cons]
  · intro h
    obtain ⟨front, c, rfl, filled⟩ := h
    exact ⟨c, front.reverse, List.reverse_concat .., filled⟩

theorem trimStart_eq (blank : ∀ c ∈ before, isBlank c = true) (begins : Begins cs) :
    trimStart (before ++ cs) = cs := by
  obtain ⟨c, rest, rfl, filled⟩ := begins
  rw [trimStart, List.dropWhile_append_of_pos blank, List.dropWhile_cons_of_neg (by simp [filled])]

theorem trimEnd_eq (stops : Stops cs) (blank : ∀ c ∈ after, isBlank c = true) :
    trimEnd (cs ++ after) = cs := by
  -- the end is the start of the reversed text
  have blank' : ∀ c ∈ after.reverse, isBlank c = true := by simpa using blank
  have reversed := trimStart_eq blank' (begins_reverse_iff.mpr stops)
  rw [trimEnd, List.reverse_append, ← trimStart, reversed, List.reverse_reverse]

theorem trim_eq (blankBefore : ∀ c ∈ before, isBlank c = true) (begins : Begins mid)
    (stops : Stops mid) (blankAfter : ∀ c ∈ after, isBlank c = true) :
    trim (before ++ mid ++ after) = mid := by
  rw [trim, List.append_assoc, trimStart_eq blankBefore (begins.append after),
    trimEnd_eq stops blankAfter]

theorem exists_trimStart (cs : List Char) :
    ∃ before, cs = before ++ trimStart cs ∧ (∀ c ∈ before, isBlank c = true) ∧
      (trimStart cs = [] ∨ Begins (trimStart cs)) := by
  refine ⟨cs.takeWhile isBlank, List.takeWhile_append_dropWhile.symm,
    fun c mem => List.mem_takeWhile_imp mem, ?_⟩
  cases left : trimStart cs with
  | nil => exact .inl rfl
  | cons c rest =>
    refine .inr ⟨c, rest, rfl, ?_⟩
    have head := List.head?_dropWhile_not isBlank cs
    rw [← trimStart, left] at head
    simpa using head

theorem exists_trimEnd (cs : List Char) :
    ∃ after, cs = trimEnd cs ++ after ∧ (∀ c ∈ after, isBlank c = true) ∧
      (trimEnd cs = [] ∨ Stops (trimEnd cs)) := by
  obtain ⟨before, reversed, blank, left⟩ := exists_trimStart cs.reverse
  refine ⟨before.reverse, ?_, by simpa using blank, ?_⟩
  · rw [trimEnd, ← trimStart, ← List.reverse_append, ← reversed, List.reverse_reverse]
  · rw [trimEnd, ← trimStart, List.reverse_eq_nil_iff, ← begins_reverse_iff, List.reverse_reverse]
    exact left

theorem exists_trim (cs : List Char) :
    ∃ before after, cs = before ++ trim cs ++ after ∧
      (∀ c ∈ before, isBlank c = true) ∧ (∀ c ∈ after, isBlank c = true) ∧
      (trim cs = [] ∨ Begins (trim cs) ∧ Stops (trim cs)) := by
  obtain ⟨before, start, blankBefore, begins⟩ := exists_trimStart cs
  obtain ⟨after, ending, blankAfter, stops⟩ := exists_trimEnd (trimStart cs)
  refine ⟨before, after, ?_, blankBefore, blankAfter, ?_⟩
  · rw [trim, List.append_assoc, ← ending, ← start]
  · rw [← trim] at stops ending
    rcases stops with empty | stops
    · exact .inl empty
    · refine .inr ⟨?_, stops⟩
      -- what is left of the start is not empty, and begins where it begins
      obtain ⟨front, d, ends, -⟩ := stops
      rcases begins with empty | ⟨c, rest, begun, filled⟩
      · rw [empty, ends] at ending
        simp at ending
      · cases left : trim cs with
        | nil => rw [ends] at left; simp at left
        | cons e more =>
          rw [begun, left] at ending
          cases ending
          exact ⟨c, more, rfl, filled⟩

theorem mem_of_mem_trim {c : Char} (mem : c ∈ trim cs) : c ∈ cs := by
  obtain ⟨before, after, whole, -⟩ := exists_trim cs
  rw [whole, List.mem_append, List.mem_append]
  exact .inl (.inr mem)

theorem trim_trim (cs : List Char) : trim (trim cs) = trim cs := by
  obtain ⟨-, -, -, -, -, left⟩ := exists_trim cs
  rcases left with empty | ⟨begins, stops⟩
  · rw [empty]
    rfl
  · have alone := trim_eq (List.forall_mem_nil _) begins stops (List.forall_mem_nil _)
    rwa [List.nil_append, List.append_nil] at alone

end SubordinateIds.Text
