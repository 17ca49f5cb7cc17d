import SubordinateIds.Shell.Matching

/-
  Patterns — which texts a pattern stands for, and which paths

  `Fits` says it as one reads a pattern: item by item, where `*` skips any text. The search
  for a fit finds exactly that (`fits_iff`), and so a pattern that is put together of two
  stands for the texts that are put together (`fits_append`). A text in quotes stands for
  itself (`fits_of_quoted`).

  What is cut from a value is the longest part at an end that fits, or the shortest
  (`trim_spec`), and the paths that a pattern of paths stands for are all there
  (`isThere_of_mem_pathsLike`).
-/

namespace SubordinateIds.Shell

namespace Pattern

variable {p q : Pattern} {cs ds : List Char}

/-! ## The texts of a pattern -/

/-- A text can be read along a pattern. -/
inductive Fits : Pattern → List Char → Prop where
  | nil : Fits [] []
  | cons {item : PatternItem} {c : Char} {p : Pattern} {cs : List Char}
    (here : itemFits item c = true) (rest : Fits p cs) : Fits (item :: p) (c :: cs)
  | many {p : Pattern} {cs rest : List Char} (skipped : List Char) (split : cs = skipped ++ rest)
    (later : Fits p rest) : Fits (.many :: p) cs

theorem mem_tails : ds ∈ tails cs ↔ ∃ skipped, cs = skipped ++ ds := by
  induction cs with
  | nil => simp [tails, eq_comm]
  | cons c cs ih =>
    rw [tails, List.mem_cons, ih]
    refine ⟨?_, ?_⟩
    · rintro (rfl | ⟨skipped, rfl⟩)
      · exact ⟨[], rfl⟩
      · exact ⟨c :: skipped, rfl⟩
    · rintro ⟨skipped, spelled⟩
      cases skipped with
      | nil => exact .inl spelled.symm
      | cons d skipped => exact .inr ⟨skipped, (List.cons.inj spelled).2⟩

/-- The search for a fit finds one if there is one. -/
theorem fits_iff : p.fits cs = true ↔ Fits p cs := by
  fun_induction fits p cs with
  | case1 cs =>
    rw [List.isEmpty_iff]
    refine ⟨?_, ?_⟩
    · rintro rfl
      exact .nil
    · intro h
      cases h
      rfl
  | case2 items cs ih =>
    rw [List.any_eq_true]
    refine ⟨?_, ?_⟩
    · rintro ⟨rest, mem, found⟩
      obtain ⟨skipped, rfl⟩ := mem_tails.mp mem
      exact .many skipped rfl ((ih rest).mp found)
    · intro h
      cases h with
      | cons here _ => cases here
      | many skipped split later => exact ⟨_, mem_tails.mpr ⟨skipped, split⟩, (ih _).mpr later⟩
  | case3 item items c cs single ih =>
    rw [Bool.and_eq_true, ih]
    refine ⟨?_, ?_⟩
    · exact fun h => .cons h.1 h.2
    · intro h
      cases h with
      | cons here rest => exact ⟨here, rest⟩
      | many => exact absurd rfl single
  | case4 item items single =>
    refine ⟨?_, ?_⟩
    · exact nofun
    · intro h
      cases h with
      | many => exact absurd rfl single

theorem fits_append :
    (p ++ q).fits cs = true ↔
      ∃ front back, cs = front ++ back ∧ p.fits front = true ∧ q.fits back = true := by
  simp only [fits_iff]
  refine ⟨?_, ?_⟩
  · intro h
    induction p generalizing cs with
    | nil => exact ⟨[], cs, rfl, .nil, h⟩
    | cons item p ih =>
      cases h with
      | cons here rest =>
        obtain ⟨front, back, rfl, first, second⟩ := ih rest
        exact ⟨_ :: front, back, rfl, .cons here first, second⟩
      | many skipped split later =>
        obtain ⟨front, back, rfl, first, second⟩ := ih later
        exact ⟨skipped ++ front, back, by rw [split, List.append_assoc],
          .many skipped rfl first, second⟩
  · rintro ⟨front, back, rfl, first, second⟩
    induction first with
    | nil => exact second
    | cons here _ ih => exact .cons here ih
    | many skipped split _ ih => exact .many skipped (by rw [split, List.append_assoc]) ih

/-! ## Quoted texts -/

theorem plainBackslashes_quoted (cs : List Char) :
    plainBackslashes (cs.map fun c => (c, false)) = cs.map fun c => (c, false) := by
  induction cs with
  | nil => rfl
  | cons c cs ih =>
    rw [List.map_cons, plainBackslashes, ih]
    · exact nofun
    · exact nofun

theorem ofChars_quoted (fuel : Nat) (cs : List Char) :
    ofChars fuel (cs.map fun c => (c, false)) = cs.map .one := by
  induction fuel generalizing cs with
  | zero => rw [ofChars, List.map_map]; rfl
  | succ fuel ih =>
    cases cs with
    | nil => rfl
    | cons c cs =>
      rw [List.map_cons, ofChars, ih]
      · rfl
      all_goals exact nofun

theorem fits_one : Pattern.fits (ds.map .one) cs = true ↔ cs = ds := by
  rw [fits_iff]
  refine ⟨?_, ?_⟩
  · intro h
    induction ds generalizing cs with
    | nil =>
      cases h
      rfl
    | cons d ds ih =>
      cases h with
      | cons here rest => rw [ih rest, beq_iff_eq.mp here]
  · rintro rfl
    induction cs with
    | nil => exact .nil
    | cons c cs ih => exact .cons (beq_self_eq_true c) ih

/-- A text in quotes stands for itself and nothing else. -/
theorem fits_of_quoted : (of (ds.map fun c => (c, false))).fits cs = true ↔ cs = ds := by
  rw [of, plainBackslashes_quoted, ofChars_quoted, fits_one]

/-! ## What is cut from a value -/

/-- So many characters at one end of a text. -/
def partAt (atEnd : Bool) (cs : List Char) (n : Nat) : List Char :=
  if atEnd then cs.drop (cs.length - n) else cs.take n

/-- The text without so many characters at one end. -/
def restAt (atEnd : Bool) (cs : List Char) (n : Nat) : List Char :=
  if atEnd then cs.take (cs.length - n) else cs.drop n

/-- So many characters at one end fit, as far as they are looked at. -/
def FitsAt (p : Pattern) (atEnd : Bool) (cs : List Char) (n : Nat) : Prop :=
  n ≤ cs.length ∧ p.fits ((partAt atEnd cs n).takeWhile (· != '\x00')) = true

/-- In a list in which one thing comes before another, the first one with a property comes
before all others that have it. -/
theorem first_of_find? {α : Type} {R : α → α → Prop} {test : α → Bool} {as : List α} {a : α}
    (ordered : as.Pairwise R) (refl : R a a) (found : as.find? test = some a) :
    ∀ b ∈ as, test b = true → R a b := by
  obtain ⟨-, before, after, rfl, failed⟩ := List.find?_eq_some_iff_append.mp found
  intro b mem passed
  rcases List.mem_append.mp mem with early | late
  · have := failed b early
    rw [passed] at this
    cases this
  · rcases List.mem_cons.mp late with rfl | late
    · exact refl
    · exact (List.pairwise_cons.mp (List.pairwise_append.mp ordered).2.1).1 b late

/-- The longest part at an end that fits is cut off, or the shortest; if there is none, nothing
is. -/
theorem trim_spec (p : Pattern) (atEnd longest : Bool) (cs : List Char) :
    (∃ n, FitsAt p atEnd cs n ∧ p.trim atEnd longest cs = restAt atEnd cs n ∧
      ∀ m, FitsAt p atEnd cs m → if longest then m ≤ n else n ≤ m) ∨
    (∀ n, ¬FitsAt p atEnd cs n) ∧ p.trim atEnd longest cs = cs := by
  have mem_counts {n : Nat} : n ∈ (if longest then (List.range (cs.length + 1)).reverse
      else List.range (cs.length + 1)) ↔ n ≤ cs.length := by
    rw [apply_ite (n ∈ ·), List.mem_reverse, ite_self, List.mem_range]
    exact Nat.lt_succ_iff
  have ordered : (if longest then (List.range (cs.length + 1)).reverse
      else List.range (cs.length + 1)).Pairwise fun n m => if longest then m ≤ n else n ≤ m := by
    cases longest with
    | true => exact List.pairwise_reverse.mpr (List.pairwise_le_range)
    | false => exact List.pairwise_le_range
  unfold trim
  extract_lets counts fitsAt
  have fitsAt_iff (n : Nat) (within : n ≤ cs.length) :
      fitsAt n = true ↔ FitsAt p atEnd cs n := (and_iff_right within).symm
  split
  · rename_i n found
    refine .inl ⟨n, ?_, rfl, fun m fits => ?_⟩
    · exact (fitsAt_iff n (mem_counts.mp (List.mem_of_find?_eq_some found))).mp
        (List.find?_some found)
    · refine first_of_find? ordered ?_ found m (mem_counts.mpr fits.1)
        ((fitsAt_iff m fits.1).mpr fits)
      cases longest <;> exact Nat.le_refl n
  · rename_i missing
    refine .inr ⟨fun n fits => ?_, rfl⟩
    exact List.find?_eq_none.mp missing n (mem_counts.mpr fits.1) ((fitsAt_iff n fits.1).mpr fits)

end Pattern

/-! ## The paths of a pattern -/

theorem isThere_of_mem_pathsFrom {st : State} {found : Bool} {before path : String}
    {segments : List (List (Char × Bool))} (mem : path ∈ st.pathsFrom found before segments) :
    st.isThere path = true := by
  induction segments generalizing found before with
  | nil =>
    unfold State.pathsFrom at mem
    split at mem
    · rename_i there
      rw [List.mem_singleton.mp mem]
      exact (Bool.and_eq_true_iff.mp there).2
    · cases mem
  | cons segment rest ih =>
    unfold State.pathsFrom at mem
    dsimp only at mem
    split at mem
    · exact ih mem
    · obtain ⟨name, -, mem⟩ := List.mem_flatMap.mp mem
      exact ih mem

/-- What a pattern of paths becomes is there. -/
theorem isThere_of_mem_pathsLike {st : State} {chars : List (Char × Bool)} {path : String}
    (mem : path ∈ st.pathsLike chars) : st.isThere path = true := by
  unfold State.pathsLike at mem
  split at mem
  · cases mem
  · exact isThere_of_mem_pathsFrom (List.mem_mergeSort.mp mem)

/-- Paths in quotes are not looked for. -/
theorem pathsLike_quoted (st : State) (cs : List Char) :
    st.pathsLike (cs.map fun c => (c, false)) = [] := by
  unfold State.pathsLike
  rw [if_pos]
  simp

end SubordinateIds.Shell
