import SubordinateIds.Proofs.Path.Validity

/-
  Children — where the path of an entry leads

  The path of an entry is the spelling of its directory, a slash where there is none yet,
  and the name of the entry. What place that is depends on the name: a name with a slash in
  it, or one of dots, would lead elsewhere. A name that has no slash and does not begin with
  a dot leads to one place below the directory, however the directory is spelled
  (`components_child`): its components are those of the directory and the name.
-/

namespace SubordinateIds.Path

variable {p : Path} {name : Octets}

theorem check_isOk_iff : p.check.isOk = true ↔ p.check = .ok () := by
  cases p.check with
  | error fault => simp [Except.isOk, Except.toBool]
  | ok => simp [Except.isOk, Except.toBool]

theorem isAbsolute_of_check (valid : p.check = .ok ()) : p.isAbsolute = true :=
  (check_eq_ok_iff.mp valid).2.1

theorem exists_octets_child (p : Path) :
    ∃ start, start ∈ [p.octets, p.octets ++ [slash]] ∧
      ∀ name, (p.child name).octets = start ++ name := by
  by_cases closed : p.octets = [] ∨ p.octets.getLast? = some slash
  · refine ⟨p.octets, by simp, ?_⟩
    intro name
    simp [child, closed]
  · refine ⟨p.octets ++ [slash], by simp, ?_⟩
    intro name
    simp [child, closed]

theorem child_injective (p : Path) : Function.Injective p.child := by
  intro name other same
  obtain ⟨start, -, spelled⟩ := exists_octets_child p
  have octets : start ++ name = start ++ other := by
    rw [← spelled, ← spelled, same]
  exact List.append_cancel_left octets

theorem isAbsolute_child (absolute : p.isAbsolute = true) : (p.child name).isAbsolute = true := by
  obtain ⟨start, either, spelled⟩ := exists_octets_child p
  unfold isAbsolute at absolute ⊢
  rw [spelled]
  cases octets : p.octets with
  | nil =>
    rw [octets] at absolute
    cases absolute
  | cons b bs =>
    rw [octets] at absolute either
    simp only [List.mem_cons, List.not_mem_nil, or_false] at either
    rcases either with rfl | rfl <;> exact absolute

/-- The name comes after the segments of the directory. A slash at the end of the directory
leaves an empty segment, and the name takes its place. -/
theorem segments_child (flat : slash ∉ name) (filled : p.octets ≠ []) :
    ∃ front, (p.segments = front ∨ p.segments = front ++ [[]]) ∧
      (p.child name).segments = front ++ [name] := by
  have alone : List.splitOn slash name = [name] := List.splitOn_eq_singleton flat
  simp only [segments, Octets.splitOn_eq]
  by_cases closed : p.octets.getLast? = some slash
  · obtain ⟨front, spelled⟩ := List.getLast?_eq_some_iff.mp closed
    have child : (p.child name).octets = front ++ slash :: name := by
      simp [child, spelled]
    refine ⟨List.splitOn slash front, .inr ?_, ?_⟩
    · rw [spelled, List.splitOn_append_cons_self, List.splitOn_nil]
    · rw [child, List.splitOn_append_cons_self, alone]
  · have child : (p.child name).octets = p.octets ++ slash :: name := by
      simp [child, closed, filled]
    refine ⟨List.splitOn slash p.octets, .inl rfl, ?_⟩
    rw [child, List.splitOn_append_cons_self, alone]

theorem components_child (absolute : p.isAbsolute = true) (flat : slash ∉ name)
    (named : name ≠ []) (shown : name.head? ≠ some dot) :
    (p.child name).components = p.components ++ [.name name] := by
  have filled := ne_nil_of_isAbsolute absolute
  have place : Component.ofSegment? name = some (.name name) := by
    have here : name ≠ [dot] := by
      rintro rfl
      exact shown rfl
    have parent : name ≠ [dot, dot] := by
      rintro rfl
      exact shown rfl
    simp [Component.ofSegment?, named, here, parent]
  have nowhere : Component.ofSegment? [] = none := rfl
  obtain ⟨front, segments, below⟩ := segments_child flat filled
  rw [components, components, if_pos absolute, if_pos (isAbsolute_child absolute), below,
    List.cons_append]
  rcases segments with same | same <;> simp [same, place, nowhere]

end SubordinateIds.Path
