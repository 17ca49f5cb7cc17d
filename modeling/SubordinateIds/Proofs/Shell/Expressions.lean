import SubordinateIds.Shell.Expression

/-
  Expressions — which parts of a text a regular expression fits

  `Spans` says from where to where a part of a text reaches that an expression fits: it is read
  along the expression, and what is repeated is taken as often as its counts allow. The search
  for the ends of such parts finds exactly these (`mem_ends_iff`). It stops early: it goes on
  only from places that it did not come from, and not more often than there are places. The
  first loses nothing since what can be reached from such a place is reached anyway
  (`steps_new_iff`), and the second loses nothing since a part never ends before it starts, so
  that all but so many steps stay where they are (`exists_short`).

  So the part that is shown is the first one that fits, and of those the longest
  (`firstPart?_eq_some_iff`), and a fixed text is found where it stands
  (`exists_spans_ofText_iff`).
-/

namespace SubordinateIds.Shell.Expression

variable {text : Array Char} {e : Expression} {i j k n m : Nat}

/-! ## Parts that fit -/

/-- So many steps lead from a place to another one. -/
def Steps (R : Nat → Nat → Prop) : Nat → Nat → Nat → Prop
  | 0, i, j => i = j
  | n + 1, i, k => ∃ j, R i j ∧ Steps R n j k

/-- An expression fits the part of a text from a place to another one. -/
def Spans (text : Array Char) : Expression → Nat → Nat → Prop
  | .empty, i, j => i = j
  | .one item, i, j => ∃ c, text[i]? = some c ∧ Pattern.itemFits item c = true ∧ j = i + 1
  | .start, i, j => i = 0 ∧ i = j
  | .finish, i, j => i = text.size ∧ i = j
  | .both first second, i, k => ∃ j, Spans text first i j ∧ Spans text second j k
  | .either first second, i, j => Spans text first i j ∨ Spans text second i j
  | .repeated body least most, i, j =>
    ∃ n, least ≤ n ∧ (∀ m ∈ most, n ≤ max least m) ∧ Steps (Spans text body) n i j

/-! ## Steps -/

section Steps

variable {R : Nat → Nat → Prop}

theorem steps_add (n m : Nat) :
    Steps R (n + m) i k ↔ ∃ j, Steps R n i j ∧ Steps R m j k := by
  induction n generalizing i with
  | zero => simp [Steps]
  | succ n ih =>
    rw [Nat.succ_add]
    simp only [Steps, ih]
    refine ⟨?_, ?_⟩
    · rintro ⟨a, first, b, next, rest⟩
      exact ⟨b, ⟨a, first, next⟩, rest⟩
    · rintro ⟨b, ⟨a, first, next⟩, rest⟩
      exact ⟨a, first, b, next, rest⟩

/-- What holds of single steps that are put together holds of all steps. -/
theorem rel_of_steps {S : Nat → Nat → Prop} (refl : ∀ i, S i i)
    (step : ∀ i j k, R i j → S j k → S i k) (h : Steps R n i j) : S i j := by
  induction n generalizing i with
  | zero =>
    cases h
    exact refl _
  | succ n ih =>
    obtain ⟨a, first, rest⟩ := h
    exact step i a j first (ih rest)

/-- Steps that stay where they are can be left out. -/
theorem exists_short (forth : ∀ i j, R i j → i ≤ j) (h : Steps R n i j) :
    ∃ m, m ≤ n ∧ m ≤ j - i ∧ Steps R m i j := by
  induction n generalizing i with
  | zero => exact ⟨0, Nat.le_refl 0, Nat.zero_le _, h⟩
  | succ n ih =>
    obtain ⟨a, first, rest⟩ := h
    obtain ⟨m, few, near, short⟩ := ih rest
    have ahead := forth i a first
    by_cases stays : a = i
    · subst stays
      exact ⟨m, Nat.le_succ_of_le few, near, short⟩
    · have later : a ≤ j := rel_of_steps Nat.le_refl
        (fun i j k first rest => Nat.le_trans (forth i j first) rest) rest
      exact ⟨m + 1, Nat.succ_le_succ few, by omega, a, first, short⟩

/-- What is reached from places is one of them, or is reached from a place that is reached from
them and is a new one. -/
theorem steps_new_iff (places : List Nat) :
    (∃ i ∈ places, ∃ m ≤ n + 1, Steps R m i j) ↔
      j ∈ places ∨ ∃ i ∈ places, ∃ a ∉ places, R i a ∧ ∃ m ≤ n, Steps R m a j := by
  refine ⟨?_, ?_⟩
  · rintro ⟨i, mem, m, few, steps⟩
    induction m generalizing i with
    | zero =>
      cases steps
      exact .inl mem
    | succ m ih =>
      obtain ⟨a, first, rest⟩ := steps
      by_cases old : a ∈ places
      · exact ih a old (Nat.le_of_succ_le few) rest
      · exact .inr ⟨i, mem, a, old, first, m, Nat.le_of_succ_le_succ few, rest⟩
  · rintro (mem | ⟨i, mem, a, -, first, m, few, rest⟩)
    · exact ⟨j, mem, 0, Nat.zero_le _, rfl⟩
    · exact ⟨i, mem, m + 1, Nat.succ_le_succ few, a, first, rest⟩

end Steps

/-! ## The search for ends -/

theorem mem_repeatedEnds_zero_iff (step : Nat → List Nat) (more : Nat) (places : List Nat) :
    j ∈ repeatedEnds step 0 more places ↔
      ∃ i ∈ places, ∃ n ≤ more, Steps (fun i j => j ∈ step i) n i j := by
  induction more generalizing places with
  | zero => simp [repeatedEnds, Steps]
  | succ more ih =>
    rw [steps_new_iff]
    unfold repeatedEnds
    extract_lets next
    have mem_next (a : Nat) : a ∈ next ↔ ∃ i ∈ places, a ∉ places ∧ a ∈ step i := by
      simp only [next, List.mem_filter, List.mem_flatMap, Bool.not_eq_true', List.elem_eq_mem,
        decide_eq_false_iff_not]
      refine ⟨?_, ?_⟩
      · rintro ⟨⟨i, mem, first⟩, fresh⟩
        exact ⟨i, mem, fresh, first⟩
      · rintro ⟨i, mem, fresh, first⟩
        exact ⟨⟨i, mem, first⟩, fresh⟩
    split
    · rename_i nothing
      refine ⟨?_, ?_⟩
      · exact .inl
      · rintro (mem | ⟨i, mem, a, fresh, first, -⟩)
        · exact mem
        · have := (mem_next a).mpr ⟨i, mem, fresh, first⟩
          rw [List.isEmpty_iff.mp nothing] at this
          cases this
    · rw [List.mem_eraseDups, List.mem_append, ih]
      simp only [List.mem_eraseDups, mem_next]
      refine or_congr_right ?_
      refine ⟨?_, ?_⟩
      · rintro ⟨a, ⟨i, mem, fresh, first⟩, rest⟩
        exact ⟨i, mem, a, fresh, first, rest⟩
      · rintro ⟨i, mem, a, fresh, first, rest⟩
        exact ⟨a, ⟨i, mem, fresh, first⟩, rest⟩

theorem mem_repeatedEnds_iff (step : Nat → List Nat) (least more : Nat) (places : List Nat) :
    j ∈ repeatedEnds step least more places ↔
      ∃ i ∈ places, ∃ n ≤ more, Steps (fun i j => j ∈ step i) (least + n) i j := by
  induction least generalizing places with
  | zero =>
    simp only [Nat.zero_add]
    exact mem_repeatedEnds_zero_iff step more places
  | succ least ih =>
    rw [repeatedEnds, ih]
    simp only [List.mem_eraseDups, List.mem_flatMap, Nat.succ_add, Steps]
    refine ⟨?_, ?_⟩
    · rintro ⟨a, ⟨i, mem, first⟩, n, few, rest⟩
      exact ⟨i, mem, n, few, a, first, rest⟩
    · rintro ⟨i, mem, n, few, a, first, rest⟩
      exact ⟨a, ⟨i, mem, first⟩, n, few, rest⟩

/-- A part ends where it starts or later, and within the text if it starts there. -/
theorem bounds_of_spans (h : Spans text e i j) : i ≤ j ∧ j ≤ max i text.size := by
  induction e generalizing i j with
  | empty =>
    cases h
    omega
  | one item =>
    obtain ⟨c, found, -, rfl⟩ := h
    have := (Array.getElem?_eq_some_iff.mp found).1
    omega
  | start =>
    obtain ⟨-, rfl⟩ := h
    omega
  | finish =>
    obtain ⟨-, rfl⟩ := h
    omega
  | both first second ih ih' =>
    obtain ⟨k, front, back⟩ := h
    have := ih front
    have := ih' back
    omega
  | either first second ih ih' =>
    rcases h with h | h
    · exact ih h
    · exact ih' h
  | repeated body least most ih =>
    obtain ⟨n, -, -, steps⟩ := h
    refine rel_of_steps (S := fun i j => i ≤ j ∧ j ≤ max i text.size) (fun i => by omega) ?_ steps
    intro i j k first rest
    have := ih first
    omega

/-- The places that the search comes to are the ends of the parts that fit. -/
theorem mem_ends_iff : j ∈ e.ends text i ↔ Spans text e i j := by
  induction e generalizing i j with
  | empty => simp [ends, Spans, eq_comm]
  | one item =>
    unfold ends Spans
    split
    · rename_i c found
      simp [found]
    · rename_i missing
      simp [missing]
  | start =>
    unfold ends Spans
    split <;> simp_all [eq_comm]
  | finish =>
    unfold ends Spans
    split <;> simp_all [eq_comm]
  | both first second ih ih' => simp [ends, Spans, ih, ih']
  | either first second ih ih' => simp [ends, Spans, ih, ih']
  | repeated body least most ih =>
    have step : Steps (fun i j => j ∈ ends text body i) = Steps (Spans text body) := by
      congr 1
      exact funext fun i => funext fun j => propext ih
    unfold ends Spans
    extract_lets more
    rw [mem_repeatedEnds_iff, step]
    simp only [List.mem_singleton, exists_eq_left]
    refine ⟨?_, ?_⟩
    · rintro ⟨n, few, steps⟩
      refine ⟨least + n, Nat.le_add_right _ _, ?_, steps⟩
      intro m bound
      have : more = m - least := by
        rw [Option.mem_def] at bound
        simp only [more, bound]
      omega
    · rintro ⟨n, enough, few, steps⟩
      obtain ⟨extra, rfl⟩ := Nat.exists_eq_add_of_le enough
      cases most with
      | some m =>
        have := few m rfl
        exact ⟨extra, by simp only [more]; omega, steps⟩
      | none =>
        -- the steps after those that there must be can be made few
        obtain ⟨k, first, rest⟩ := (steps_add least extra).mp steps
        obtain ⟨n, -, near, short⟩ := exists_short (fun i j h => (bounds_of_spans h).1) rest
        have within : j ≤ max k text.size :=
          (rel_of_steps (S := fun i j => i ≤ j ∧ j ≤ max i text.size) (fun i => by omega)
            (fun i j k first rest => by have := bounds_of_spans first; omega) rest).2
        exact ⟨n, by simp only [more]; omega, (steps_add least n).mpr ⟨k, first, short⟩⟩

/-! ## The first part, and the longest -/

theorem mem_places_iff {place : Nat} :
    i ∈ (List.range (text.size + 1)).drop place ↔ place ≤ i ∧ i ≤ text.size := by
  rw [List.range_eq_range', List.drop_range', List.mem_range'_1]
  omega

/-- Where numbers ascend, the first with a value is the least one. -/
theorem findSome?_eq_some_iff_least {α : Type} {f : Nat → Option α} {places : List Nat} {a : α}
    (ordered : places.Pairwise (· < ·)) :
    places.findSome? f = some a ↔
      ∃ i ∈ places, f i = some a ∧ ∀ n ∈ places, n < i → f n = none := by
  rw [List.findSome?_eq_some_iff]
  refine ⟨?_, ?_⟩
  · rintro ⟨before, i, after, rfl, found, failed⟩
    refine ⟨i, List.mem_append_right _ List.mem_cons_self, found, fun n mem early => ?_⟩
    rcases List.mem_append.mp mem with mem | mem
    · exact failed n mem
    · rcases List.mem_cons.mp mem with rfl | mem
      · omega
      · have := List.rel_of_pairwise_cons (List.pairwise_append.mp ordered).2.1 mem
        omega
  · rintro ⟨i, mem, found, failed⟩
    obtain ⟨before, after, rfl⟩ := List.append_of_mem mem
    refine ⟨before, i, after, rfl, found, fun n mem => ?_⟩
    exact failed n (List.mem_append_left _ mem)
      ((List.pairwise_append.mp ordered).2.2 n mem i List.mem_cons_self)

section Longest

variable {admits : Nat → Nat → Bool} {place : Nat}

theorem mem_filter_ends_iff :
    j ∈ (e.ends text i).filter (admits i) ↔ Spans text e i j ∧ admits i j = true := by
  rw [List.mem_filter, mem_ends_iff]

theorem longest_eq_some_iff :
    ((e.ends text i).filter (admits i)).max? = some j ↔
      Spans text e i j ∧ admits i j = true ∧ ∀ k, Spans text e i k → admits i k = true → k ≤ j := by
  rw [List.max?_eq_some_iff, mem_filter_ends_iff, and_assoc]
  simp only [mem_filter_ends_iff, and_imp]

theorem longest_eq_none_iff :
    ((e.ends text i).filter (admits i)).max? = none ↔
      ∀ k, Spans text e i k → admits i k = false := by
  rw [List.max?_eq_none_iff, List.eq_nil_iff_forall_not_mem]
  simp only [mem_filter_ends_iff, not_and, Bool.not_eq_true]

/-- The part that is found starts as early as possible, and is as long as possible then. -/
theorem firstPart?_eq_some_iff :
    firstPart? text admits e place = some (i, j) ↔
      (place ≤ i ∧ i ≤ text.size) ∧
      (Spans text e i j ∧ admits i j = true ∧
        ∀ k, Spans text e i k → admits i k = true → k ≤ j) ∧
      ∀ n, place ≤ n → n < i → ∀ k, Spans text e n k → admits n k = false := by
  rw [firstPart?, findSome?_eq_some_iff_least List.pairwise_lt_range.drop]
  simp only [mem_places_iff, Option.map_eq_some_iff, Option.map_eq_none_iff,
    longest_eq_some_iff, longest_eq_none_iff, Prod.mk.injEq]
  refine ⟨?_, ?_⟩
  · rintro ⟨n, within, ⟨k, found, rfl, rfl⟩, failed⟩
    exact ⟨within, found, fun m after early => failed m ⟨after, by omega⟩ early⟩
  · rintro ⟨within, found, failed⟩
    exact ⟨i, within, ⟨j, found, rfl, rfl⟩, fun m after early => failed m after.1 early⟩

theorem firstPart?_eq_none_iff :
    firstPart? text admits e place = none ↔
      ∀ n, place ≤ n → n ≤ text.size → ∀ k, Spans text e n k → admits n k = false := by
  rw [firstPart?, List.findSome?_eq_none_iff]
  simp only [mem_places_iff, Option.map_eq_none_iff, longest_eq_none_iff, and_imp]

end Longest

/-! ## Fixed texts -/

theorem spans_ofText_iff {style : Style} (cased : style.caseless = false) {word : List Char} :
    Spans text (ofText style word) i j ↔
      j = i + word.length ∧ word <+: text.toList.drop i := by
  induction word generalizing i with
  | nil => simp [ofText, Spans, eq_comm]
  | cons c word ih =>
    have cons : ofText style (c :: word) = .both (.one (.one c)) (ofText style word) := by
      simp [ofText, character, cased]
    rw [cons, Spans]
    simp only [Spans, ih, Pattern.itemFits, beq_iff_eq, List.length_cons]
    refine ⟨?_, ?_⟩
    · rintro ⟨_, ⟨_, found, rfl, rfl⟩, rfl, rest⟩
      obtain ⟨within, here⟩ := Array.getElem?_eq_some_iff.mp found
      refine ⟨by omega, ?_⟩
      rw [List.drop_eq_getElem_cons within]
      exact List.cons_prefix_cons.mpr ⟨here.symm, rest⟩
    · rintro ⟨rfl, stands⟩
      have within : i < text.toList.length := by
        have := stands.length_le
        rw [List.length_cons, List.length_drop] at this
        omega
      rw [List.drop_eq_getElem_cons within] at stands
      obtain ⟨here, rest⟩ := List.cons_prefix_cons.mp stands
      have found : text[i]? = some c := Array.getElem?_eq_some_iff.mpr ⟨within, here.symm⟩
      exact ⟨i + 1, ⟨c, found, rfl, rfl⟩, by omega, rest⟩

/-- A fixed text is found where it stands. -/
theorem exists_spans_ofText_iff {style : Style} (cased : style.caseless = false)
    {word : List Char} :
    (∃ i j, Spans text (ofText style word) i j) ↔ word <:+: text.toList := by
  simp only [spans_ofText_iff cased, exists_and_right, exists_eq, true_and]
  rw [List.infix_iff_prefix_suffix]
  refine ⟨?_, ?_⟩
  · rintro ⟨i, stands⟩
    exact ⟨_, stands, List.drop_suffix i _⟩
  · rintro ⟨rest, stands, suffix⟩
    exact ⟨_, List.suffix_iff_eq_drop.mp suffix ▸ stands⟩

end SubordinateIds.Shell.Expression
