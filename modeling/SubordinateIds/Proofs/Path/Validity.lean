import SubordinateIds.Path.Validity
import SubordinateIds.Proofs.Octets

/-
  Validity in terms of segments

  A path is looked at twice for a way upwards: its text is searched for two dots between
  slashes, and then its components for the parent. The components leave out what does not
  count, so that the two could differ. For a path that starts at the root they do not, since
  both come to the same question: whether two dots are one of the segments
  (`climbs_iff_mem_segments`, `parent_mem_components_iff`). So what is left for the look at
  the components are names that are too long (`findSome?_componentFault?`).

  `Verdict` lists what can be said of a path in the order in which it is looked at, and
  `check_eq_iff` says that it is said.
-/

namespace SubordinateIds.Path

variable {p : Path}

/-! ## Two dots -/

theorem isAbsolute_iff : p.isAbsolute = true ↔ p.octets.head? = some slash := by
  rw [isAbsolute, beq_iff_eq]

theorem climbs_iff :
    p.climbs = true ↔
      [slash, dot, dot, slash] <:+: p.octets ∨ [slash, dot, dot] <:+ p.octets := by
  rw [climbs, Bool.or_eq_true, Octets.hasRun_iff, List.isSuffixOf_iff_suffix]

/-- A path from the root climbs in its text exactly if two dots are one of its segments. There is
always a slash in front of them, as the path begins with one. -/
theorem climbs_iff_mem_segments (absolute : p.isAbsolute = true) :
    p.climbs = true ↔ [dot, dot] ∈ p.segments := by
  have flat : slash ∉ [dot, dot] := by decide
  rw [climbs_iff, segments, Octets.splitOn_eq, Octets.mem_splitOn_iff]
  constructor
  · intro h
    refine ⟨flat, ?_⟩
    rcases h with ⟨front, back, spelled⟩ | ⟨front, spelled⟩
    · exact ⟨front ++ [slash], slash :: back, by simp [← spelled], .inr (by simp), .inr rfl⟩
    · exact ⟨front ++ [slash], [], by simp [← spelled], .inr (by simp), .inl rfl⟩
  · intro h
    obtain ⟨-, front, back, spelled, start, stop⟩ := h
    rw [isAbsolute_iff, spelled] at absolute
    rcases start with rfl | ends
    · cases absolute
    obtain ⟨front, rfl⟩ := List.getLast?_eq_some_iff.mp ends
    rcases stop with rfl | begins
    · exact .inr ⟨front, by simp [spelled]⟩
    · obtain ⟨back, rfl⟩ := List.head?_eq_some_iff.mp begins
      exact .inl ⟨front, back, by simp [spelled]⟩

/-! ## Components -/

theorem mem_components_iff (absolute : p.isAbsolute = true) {component : Component} :
    component ∈ p.components ↔
      component = .root ∨ ∃ s ∈ p.segments, Component.ofSegment? s = some component := by
  rw [components, if_pos absolute, List.mem_cons, List.mem_filterMap]

theorem ofSegment?_eq_parent_iff {s : Octets} :
    Component.ofSegment? s = some .parent ↔ s = [dot, dot] := by
  constructor
  · intro stands
    unfold Component.ofSegment? at stands
    split at stands
    · cases stands
    · split at stands
      · assumption
      · cases stands
  · rintro rfl
    rfl

theorem ofSegment?_eq_name_iff {s name : Octets} :
    Component.ofSegment? s = some (.name name) ↔ s = name ∧ s ∉ [[], [dot], [dot, dot]] := by
  simp only [List.mem_cons, List.not_mem_nil, or_false, not_or]
  constructor
  · intro stands
    unfold Component.ofSegment? at stands
    split at stands
    · cases stands
    · rename_i counts
      split at stands
      · cases stands
      · rename_i level
        cases stands
        simpa [level] using counts
  · rintro ⟨rfl, filled, here, parent⟩
    simp [Component.ofSegment?, filled, here, parent]

theorem parent_mem_components_iff (absolute : p.isAbsolute = true) :
    .parent ∈ p.components ↔ [dot, dot] ∈ p.segments := by
  simp [mem_components_iff absolute, ofSegment?_eq_parent_iff]

theorem longComponent_iff (absolute : p.isAbsolute = true) :
    (∃ component ∈ p.components, componentFault? p component = some .longComponent) ↔
      ∃ s ∈ p.segments, 255 < s.length := by
  constructor
  · intro h
    obtain ⟨component, mem, found⟩ := h
    cases component with
    | name name =>
      rw [componentFault?, Option.ite_none_right_eq_some] at found
      rw [mem_components_iff absolute] at mem
      obtain same | ⟨s, segment, stands⟩ := mem
      · cases same
      · obtain ⟨rfl, -⟩ := ofSegment?_eq_name_iff.mp stands
        exact ⟨s, segment, found.1⟩
    | _ => cases found
  · intro h
    obtain ⟨s, segment, long⟩ := h
    have named : s ∉ [[], [dot], [dot, dot]] := by
      intro mem
      simp only [List.mem_cons, List.not_mem_nil, or_false] at mem
      rcases mem with rfl | rfl | rfl <;> exact absurd long (by decide)
    have stands := ofSegment?_eq_name_iff.mpr ⟨rfl, named⟩
    exact ⟨.name s, (mem_components_iff absolute).mpr (.inr ⟨s, segment, stands⟩), if_pos long⟩

/-- If two dots are no segment, a component can only be at fault for being too long. -/
theorem fault_of_component (absolute : p.isAbsolute = true) (level : [dot, dot] ∉ p.segments)
    {component : Component} (mem : component ∈ p.components) {fault : Fault}
    (found : componentFault? p component = some fault) : fault = .longComponent := by
  cases component with
  | parent => exact absurd ((parent_mem_components_iff absolute).mp mem) level
  | name name =>
    rw [componentFault?, Option.ite_none_right_eq_some] at found
    exact (Option.some.inj found.2).symm
  | _ => cases found

theorem findSome?_componentFault? (absolute : p.isAbsolute = true)
    (level : [dot, dot] ∉ p.segments) :
    p.components.findSome? (componentFault? p) =
      if ∃ s ∈ p.segments, 255 < s.length then some .longComponent else none := by
  split
  · rename_i long
    obtain ⟨component, mem, fault⟩ := (longComponent_iff absolute).mpr long
    cases found : p.components.findSome? (componentFault? p) with
    | none =>
      rw [List.findSome?_eq_none_iff.mp found component mem] at fault
      cases fault
    | some fault =>
      obtain ⟨component, mem, found⟩ := List.exists_of_findSome?_eq_some found
      rw [fault_of_component absolute level mem found]
  · rename_i bounded
    rw [← longComponent_iff absolute] at bounded
    rw [List.findSome?_eq_none_iff]
    intro component mem
    apply Option.eq_none_iff_forall_ne_some.mpr
    intro fault found
    obtain rfl := fault_of_component absolute level mem found
    exact bounded ⟨component, mem, found⟩

/-! ## Verdicts -/

/-- What is said of a path, in the order in which it is looked at. -/
inductive Verdict (p : Path) : Except Fault Unit → Prop where
  | empty (nothing : p.octets = []) : Verdict p (.error .empty)
  | tooLong (long : 4096 ≤ p.octets.length) : Verdict p (.error (.tooLong p.octets.length))
  | relative (filled : p.octets ≠ []) (short : p.octets.length < 4096)
      (elsewhere : p.isAbsolute = false) : Verdict p (.error (.relative p))
  | climbs (short : p.octets.length < 4096) (absolute : p.isAbsolute = true)
      (up : [dot, dot] ∈ p.segments) : Verdict p (.error (.climbs p))
  | longComponent (short : p.octets.length < 4096) (absolute : p.isAbsolute = true)
      (level : [dot, dot] ∉ p.segments) (long : ∃ s ∈ p.segments, 255 < s.length) :
      Verdict p (.error .longComponent)
  | valid (short : p.octets.length < 4096) (absolute : p.isAbsolute = true)
      (level : [dot, dot] ∉ p.segments) (bounded : ∀ s ∈ p.segments, s.length ≤ 255) :
      Verdict p (.ok ())

theorem ne_nil_of_isAbsolute (absolute : p.isAbsolute = true) : p.octets ≠ [] := by
  intro nothing
  rw [isAbsolute, nothing] at absolute
  cases absolute

theorem check_of_isAbsolute (short : p.octets.length < 4096) (absolute : p.isAbsolute = true) :
    p.check =
      if [dot, dot] ∈ p.segments then .error (.climbs p)
      else if ∃ s ∈ p.segments, 255 < s.length then .error .longComponent
      else .ok () := by
  have within : ¬p.octets.length ≥ lengthLimit := Nat.not_le.mpr short
  rw [check, if_neg (ne_nil_of_isAbsolute absolute), if_neg within, if_neg (by simp [absolute])]
  by_cases up : [dot, dot] ∈ p.segments
  · rw [if_pos up, if_pos ((climbs_iff_mem_segments absolute).mpr up)]
  · rw [if_neg up, if_neg (mt (climbs_iff_mem_segments absolute).mp up),
      findSome?_componentFault? absolute up]
    by_cases long : ∃ s ∈ p.segments, 255 < s.length
    · simp only [if_pos long]
    · simp only [if_neg long]

theorem Verdict.check_eq {r : Except Fault Unit} (h : Verdict p r) : p.check = r := by
  cases h with
  | empty nothing => rw [check, if_pos nothing]
  | tooLong long =>
    have filled : p.octets ≠ [] := by
      intro nothing
      rw [nothing] at long
      cases long
    have beyond : p.octets.length ≥ lengthLimit := long
    rw [check, if_neg filled, if_pos beyond]
  | relative filled short elsewhere =>
    have within : ¬p.octets.length ≥ lengthLimit := Nat.not_le.mpr short
    rw [check, if_neg filled, if_neg within, if_pos (by simp [elsewhere])]
  | climbs short absolute up => rw [check_of_isAbsolute short absolute, if_pos up]
  | longComponent short absolute level long =>
    rw [check_of_isAbsolute short absolute, if_neg level, if_pos long]
  | valid short absolute level bounded =>
    have narrow : ¬∃ s ∈ p.segments, 255 < s.length := by simpa using bounded
    rw [check_of_isAbsolute short absolute, if_neg level, if_neg narrow]

theorem exists_verdict (p : Path) : ∃ r, Verdict p r := by
  by_cases nothing : p.octets = []
  · exact ⟨_, .empty nothing⟩
  by_cases long : 4096 ≤ p.octets.length
  · exact ⟨_, .tooLong long⟩
  have short : p.octets.length < 4096 := Nat.not_le.mp long
  cases absolute : p.isAbsolute with
  | false => exact ⟨_, .relative nothing short absolute⟩
  | true =>
    by_cases up : [dot, dot] ∈ p.segments
    · exact ⟨_, .climbs short absolute up⟩
    by_cases long : ∃ s ∈ p.segments, 255 < s.length
    · exact ⟨_, .longComponent short absolute up long⟩
    · exact ⟨_, .valid short absolute up (by simpa using long)⟩

theorem check_eq_iff {r : Except Fault Unit} : p.check = r ↔ Verdict p r := by
  constructor
  · intro result
    obtain ⟨r', verdict⟩ := exists_verdict p
    rw [← result, verdict.check_eq]
    exact verdict
  · exact Verdict.check_eq

theorem check_eq_empty_iff : p.check = .error .empty ↔ p.octets = [] := by
  rw [check_eq_iff]
  constructor
  · intro h
    cases h with
    | empty nothing => exact nothing
  · exact .empty

theorem check_eq_tooLong_iff {n : Nat} :
    p.check = .error (.tooLong n) ↔ n = p.octets.length ∧ 4096 ≤ p.octets.length := by
  rw [check_eq_iff]
  constructor
  · intro h
    cases h with
    | tooLong long => exact ⟨rfl, long⟩
  · rintro ⟨rfl, long⟩
    exact .tooLong long

theorem check_eq_relative_iff {q : Path} :
    p.check = .error (.relative q) ↔
      q = p ∧ 0 < p.octets.length ∧ p.octets.length < 4096 ∧ p.isAbsolute = false := by
  rw [check_eq_iff, List.length_pos_iff]
  constructor
  · intro h
    cases h with
    | relative filled short elsewhere => exact ⟨rfl, filled, short, elsewhere⟩
  · rintro ⟨rfl, filled, short, elsewhere⟩
    exact .relative filled short elsewhere

theorem check_eq_climbs_iff {q : Path} :
    p.check = .error (.climbs q) ↔
      q = p ∧ p.octets.length < 4096 ∧ p.isAbsolute = true ∧ [dot, dot] ∈ p.segments := by
  rw [check_eq_iff]
  constructor
  · intro h
    cases h with
    | climbs short absolute up => exact ⟨rfl, short, absolute, up⟩
  · rintro ⟨rfl, short, absolute, up⟩
    exact .climbs short absolute up

theorem check_eq_longComponent_iff :
    p.check = .error .longComponent ↔
      p.octets.length < 4096 ∧ p.isAbsolute = true ∧ [dot, dot] ∉ p.segments ∧
        ∃ s ∈ p.segments, 255 < s.length := by
  rw [check_eq_iff]
  constructor
  · intro h
    cases h with
    | longComponent short absolute level long => exact ⟨short, absolute, level, long⟩
  · rintro ⟨short, absolute, level, long⟩
    exact .longComponent short absolute level long

theorem check_eq_ok_iff :
    p.check = .ok () ↔
      p.octets.length < 4096 ∧ p.isAbsolute = true ∧ [dot, dot] ∉ p.segments ∧
        ∀ s ∈ p.segments, s.length ≤ 255 := by
  rw [check_eq_iff]
  constructor
  · intro h
    cases h with
    | valid short absolute level bounded => exact ⟨short, absolute, level, bounded⟩
  · rintro ⟨short, absolute, level, bounded⟩
    exact .valid short absolute level bounded

/-- A path is judged by its segments, the octets between slashes. It is valid exactly if it has
1 to 4095 octets, starts at the root, and none of its segments is two dots or longer than 255
octets. Otherwise it is refused for the first of these that does not hold. Two dots are looked
for in the text and then among the components; in a path that starts at the root both looks
find the same, so the second one never finds any. -/
theorem segments_decide (p : Path) :
    let segments := List.splitOn 0x2f p.octets
    (p.check = .ok () ↔ 0 < p.octets.length ∧ p.octets.length < 4096 ∧
      p.octets.head? = some 0x2f ∧ ∀ s ∈ segments, s ≠ [0x2e, 0x2e] ∧ s.length ≤ 255) ∧
    (p.check = .error .empty ↔ p.octets = []) ∧
    (∀ n, p.check = .error (.tooLong n) ↔ n = p.octets.length ∧ 4096 ≤ p.octets.length) ∧
    (∀ q, p.check = .error (.relative q) ↔ q = p ∧ 0 < p.octets.length ∧
      p.octets.length < 4096 ∧ p.octets.head? ≠ some 0x2f) ∧
    (∀ q, p.check = .error (.climbs q) ↔ q = p ∧ p.octets.length < 4096 ∧
      p.octets.head? = some 0x2f ∧ [0x2e, 0x2e] ∈ segments) ∧
    (p.check = .error .longComponent ↔ p.octets.length < 4096 ∧ p.octets.head? = some 0x2f ∧
      [0x2e, 0x2e] ∉ segments ∧ ∃ s ∈ segments, 255 < s.length) ∧
    (p.climbs = true ↔
      [0x2f, 0x2e, 0x2e, 0x2f] <:+: p.octets ∨ [0x2f, 0x2e, 0x2e] <:+ p.octets) ∧
    (p.octets.head? = some 0x2f → (p.climbs = true ↔ .parent ∈ p.components) ∧
      (p.climbs = false → ∀ component ∈ p.components,
        componentFault? p component ≠ some (.climbs p))) := by
  have cut : List.splitOn 0x2f p.octets = p.segments := (Octets.splitOn_eq slash p.octets).symm
  have root : p.octets.head? = some 0x2f ↔ p.isAbsolute = true := isAbsolute_iff.symm
  have elsewhere : p.octets.head? ≠ some 0x2f ↔ p.isAbsolute = false := by
    rw [ne_eq, root, Bool.not_eq_true]
  simp only [cut, root, elsewhere]
  refine ⟨?_, check_eq_empty_iff, fun n => check_eq_tooLong_iff, fun q => check_eq_relative_iff,
    fun q => check_eq_climbs_iff, check_eq_longComponent_iff, climbs_iff, fun absolute => ⟨?_, ?_⟩⟩
  · rw [check_eq_ok_iff]
    constructor
    · intro h
      obtain ⟨short, absolute, level, bounded⟩ := h
      refine ⟨List.length_pos_iff.mpr (ne_nil_of_isAbsolute absolute), short, absolute, ?_⟩
      intro s segment
      refine ⟨?_, bounded s segment⟩
      rintro rfl
      exact level segment
    · intro h
      obtain ⟨-, short, absolute, each⟩ := h
      exact ⟨short, absolute, fun up => (each _ up).1 rfl, fun s segment => (each s segment).2⟩
  · rw [climbs_iff_mem_segments absolute, parent_mem_components_iff absolute]
  · intro level component mem found
    have level : [dot, dot] ∉ p.segments := by
      rw [← climbs_iff_mem_segments absolute, level]
      exact Bool.false_ne_true
    cases fault_of_component absolute level mem found

end SubordinateIds.Path
