import SubordinateIds.Proofs.Shell.Course
import SubordinateIds.Shell.Filters
import Mathlib.Data.List.Destutter
import Mathlib.Data.List.SplitBy

/-
  Filters — what the programs on lines write

  A text is read as lines and written as lines, and nothing is lost by that but whether its last
  line had an end (`toList_textOf_linesOf`).

  Three programs look for runs of items that are alike. To take the first item of each run is
  the same as to leave out what is like the item that was kept last (`heads_splitBy`); so
  `unique_eq` and `squeeze_eq` say what is written where nothing else is asked for.

  Lines that were sorted are in order, with an option for it by the numbers in front
  (`pairwise_kept`), and they are the lines that were there (`kept_perm`). If each is wanted only
  once, no two are alike, and still there is one for each line that was there (`exists_alike`).
-/

namespace SubordinateIds.Shell.Filter

/-! ## Lines -/

variable {lines : List (List Char)}

theorem splitOn_lines (single : ∀ line ∈ lines, '\n' ∉ line) {last : List Char}
    (opened : '\n' ∉ last) :
    (lines.flatMap (fun line => line ++ ['\n']) ++ last).splitOn '\n' = lines ++ [last] := by
  induction lines with
  | nil => exact List.splitOn_eq_singleton opened
  | cons line lines ih =>
    obtain ⟨first, others⟩ := List.forall_mem_cons.mp single
    rw [List.flatMap_cons, List.append_assoc, List.append_assoc, List.singleton_append,
      List.splitOn_append_cons_self, List.splitOn_eq_singleton first, ih others]
    rfl

theorem exists_lines (cs : List Char) : ∃ (lines : List (List Char)) (last : List Char),
    cs = lines.flatMap (fun line => line ++ ['\n']) ++ last ∧
      (∀ line ∈ lines, '\n' ∉ line) ∧ '\n' ∉ last := by
  induction cs with
  | nil => exact ⟨[], [], rfl, nofun, nofun⟩
  | cons c cs ih =>
    obtain ⟨lines, last, rfl, single, opened⟩ := ih
    by_cases feed : c = '\n'
    · refine ⟨[] :: lines, last, ?_, List.forall_mem_cons.mpr ⟨nofun, single⟩, opened⟩
      rw [feed]
      rfl
    · have plain {cs : List Char} (h : '\n' ∉ cs) : '\n' ∉ c :: cs :=
        List.not_mem_cons_of_ne_of_not_mem (Ne.symm feed) h
      cases lines with
      | nil => exact ⟨[], c :: last, rfl, nofun, plain opened⟩
      | cons line lines =>
        obtain ⟨first, others⟩ := List.forall_mem_cons.mp single
        exact ⟨(c :: line) :: lines, last, rfl,
          List.forall_mem_cons.mpr ⟨plain first, others⟩, opened⟩

theorem linesOf_eq (single : ∀ line ∈ lines, '\n' ∉ line) {last : List Char}
    (opened : '\n' ∉ last) :
    linesOf (lines.flatMap (fun line => line ++ ['\n']) ++ last) =
      if last = [] then lines else lines ++ [last] := by
  rw [linesOf, splitOn_lines single opened]
  simp

theorem linesOf_textOf (single : ∀ line ∈ lines, '\n' ∉ line) :
    linesOf (textOf lines).toList = lines := by
  have read := linesOf_eq single (List.not_mem_nil (a := '\n'))
  rw [List.append_nil, if_pos rfl] at read
  rw [textOf, String.toList_ofList]
  exact read

theorem closed_lines (lines : List (List Char)) :
    lines.flatMap (fun line => line ++ ['\n']) = [] ∨
      (lines.flatMap (fun line => line ++ ['\n'])).getLast? = some '\n' := by
  rcases List.eq_nil_or_concat' lines with rfl | ⟨before, line, rfl⟩
  · exact .inl rfl
  · right
    rw [List.flatMap_append, List.flatMap_singleton, ← List.append_assoc]
    exact List.getLast?_concat

/-- A text that is read as lines and written again has an end after its last line. -/
theorem toList_textOf_linesOf (cs : List Char) : (textOf (linesOf cs)).toList =
    if cs = [] ∨ cs.getLast? = some '\n' then cs else cs ++ ['\n'] := by
  obtain ⟨lines, last, rfl, single, opened⟩ := exists_lines cs
  rw [linesOf_eq single opened, textOf, String.toList_ofList]
  by_cases closed : last = []
  · subst closed
    rw [if_pos rfl, List.append_nil, if_pos (closed_lines lines)]
  · have still : ¬(lines.flatMap (fun line => line ++ ['\n']) ++ last = [] ∨
        (lines.flatMap (fun line => line ++ ['\n']) ++ last).getLast? = some '\n') := by
      rintro (empty | feed)
      · exact closed (List.append_eq_nil_iff.mp empty).2
      · rw [List.getLast?_append_of_ne_nil _ closed] at feed
        exact opened (List.mem_of_getLast? feed)
    rw [if_neg closed, if_neg still, List.flatMap_append, List.flatMap_singleton, List.append_assoc]

/-! ## Runs -/

section Runs

variable {α : Type} {r : α → α → Bool} {a : α} {run : List α}

theorem related_of_mem (alike : ∀ a b c, r a b = true → r a c = r b c)
    (chain : (a :: run).IsChain fun a b => r a b = true) : ∀ c ∈ run, r a c = true := by
  induction run generalizing a with
  | nil => exact nofun
  | cons b run ih =>
    obtain ⟨related, chain⟩ := List.isChain_cons_cons.mp chain
    refine List.forall_mem_cons.mpr ⟨related, fun c mem => ?_⟩
    rw [alike a b c related]
    exact ih chain c mem

theorem related_getLast (alike : ∀ a b c, r a b = true → r a c = r b c)
    (chain : (a :: run).IsChain fun a b => r a b = true) (b : α) :
    r ((a :: run).getLast (List.cons_ne_nil a run)) b = r a b := by
  rcases List.mem_cons.mp (List.getLast_mem (List.cons_ne_nil a run)) with same | mem
  · rw [same]
  · exact (alike a _ b (related_of_mem alike chain _ mem)).symm

theorem destutter'_append_run (related : ∀ c ∈ run, r a c = true) (rest : List α) :
    (run ++ rest).destutter' (fun a b => r a b = false) a =
      rest.destutter' (fun a b => r a b = false) a := by
  induction run with
  | nil => rfl
  | cons b run ih =>
    obtain ⟨first, others⟩ := List.forall_mem_cons.mp related
    rw [List.cons_append, List.destutter'_cons_neg _ (by simp [first]), ih others]

/-- The first items of runs are what is left when an item is left out that is like the one that
was kept last. -/
theorem heads_splitBy (alike : ∀ a b c, r a b = true → r a c = r b c) (items : List α) :
    (items.splitBy r).filterMap List.head? = items.destutter fun a b => r a b = false := by
  have filled (run : List α) (mem : run ∈ items.splitBy r) : run ≠ [] :=
    List.ne_nil_of_mem_splitBy mem
  have chains (run : List α) (mem : run ∈ items.splitBy r) :
      run.IsChain fun a b => r a b = true := List.isChain_of_mem_splitBy mem
  have borders := List.isChain_getLast_head_splitBy r items
  have whole := List.flatten_splitBy r items
  generalize items.splitBy r = runs at filled chains borders whole
  rw [← whole]
  clear whole
  induction runs with
  | nil => rfl
  | cons run runs ih =>
    obtain ⟨first, others⟩ := List.forall_mem_cons.mp chains
    obtain ⟨a, run, rfl⟩ := List.exists_cons_of_ne_nil (filled run List.mem_cons_self)
    have ih := ih (List.forall_mem_cons.mp filled).2 others borders.tail
    have front : ((a :: run) :: runs).filterMap List.head? = a :: runs.filterMap List.head? := rfl
    rw [front, ih, List.flatten_cons, List.cons_append,
      List.destutter_cons', destutter'_append_run (related_of_mem alike first)]
    cases runs with
    | nil => rfl
    | cons next runs =>
      obtain ⟨_, between, apart⟩ := (List.isChain_cons_cons.mp borders).1
      obtain ⟨b, next, rfl⟩ := List.exists_cons_of_ne_nil between
      rw [related_getLast alike first] at apart
      rw [List.flatten_cons, List.cons_append, List.destutter_cons']
      exact (List.destutter'_cons_pos (R := fun a b => r a b = false) _ apart).symm

theorem exists_head_splitBy (alike : ∀ a b c, r a b = true → r a c = r b c)
    (own : ∀ a, r a a = true) {items : List α} {item : α} (mem : item ∈ items) :
    ∃ first ∈ (items.splitBy r).filterMap List.head?, r first item = true := by
  rw [← List.flatten_splitBy r items] at mem
  obtain ⟨run, found, within⟩ := List.mem_flatten.mp mem
  have chain := List.isChain_of_mem_splitBy found
  obtain ⟨a, run, rfl⟩ := List.exists_cons_of_ne_nil (List.ne_nil_of_mem_splitBy found)
  refine ⟨a, List.mem_filterMap.mpr ⟨a :: run, found, rfl⟩, ?_⟩
  rcases List.mem_cons.mp within with rfl | later
  · exact own item
  · exact related_of_mem alike chain item later

end Runs

/-- Without options only the lines are left out that are the same as the one before. -/
theorem unique_eq {options : List (Char × String)}
    (plain : ∀ c ∈ ['c', 'd', 'u'], has options c = false) (words : List String) :
    unique options words =
      through false (fun lines => textOf (lines.destutter (· ≠ ·))) (words.take 1) := by
  have heads (lines : List (List Char)) :
      (lines.splitBy (· == ·)).filterMap List.head? = lines.destutter (· ≠ ·) := by
    rw [heads_splitBy fun a b c same => by rw [eq_of_beq same]]
    congr 1
    funext a b
    exact propext beq_eq_false_iff_ne
  unfold unique
  congr 1
  funext lines
  rw [← heads, plain 'c' (by decide), plain 'd' (by decide), plain 'u' (by decide)]
  simp

theorem squeeze_eq (set : Char → Bool) (cs : List Char) :
    squeeze set cs = cs.destutter fun a b => (a == b && set a) = false := by
  rw [← heads_splitBy, List.filterMap_eq_flatMap_toList]
  · apply List.flatMap_congr
    intro run mem
    obtain ⟨a, run, rfl⟩ := List.exists_cons_of_ne_nil (List.ne_nil_of_mem_splitBy mem)
    have chain := List.isChain_of_mem_splitBy mem
    cases run with
    | nil => simp
    | cons b run =>
      have related := (List.isChain_cons_cons.mp chain).1
      simp [(Bool.and_eq_true_iff.mp related).2]
  · intro a b c related
    rw [eq_of_beq (Bool.and_eq_true_iff.mp related).1]

theorem run_through_input {st : State} (whole : Bool) (change : List (List Char) → String)
    (readable : st.hasInput = true) : (through whole change []).run st =
      (say (change (linesOf st.input)) 0).run (st.withInput []) := by
  have taken : (sources []).run st =
      (.ok [("-", if st.hasInput then some st.input else none)], st.withInput []) := rfl
  unfold through
  rw [run_bind, taken, readable]
  simp

/-! ## Lines that are sorted -/

/-- One line may stand before another one. With the option `n` the numbers in front are compared
first. -/
def atMost (options : List (Char × String)) (a b : List Char) : Bool :=
  if has options 'n' && leadingNumber a != leadingNumber b then leadingNumber a ≤ leadingNumber b
  else String.ofList a ≤ String.ofList b

/-- Of two such lines only one is wanted with the option `u`. -/
def alike (options : List (Char × String)) (a b : List Char) : Bool :=
  if has options 'n' then leadingNumber a == leadingNumber b else a == b

/-- The lines that are kept, in order. -/
def kept (options : List (Char × String)) (lines : List (List Char)) : List (List Char) :=
  let sorted := lines.mergeSort (atMost options)
  if has options 'u' then (sorted.splitBy (alike options)).filterMap List.head? else sorted

theorem sort_eq (options : List (Char × String)) : sort options = through true fun lines =>
    textOf (if has options 'r' then (kept options lines).reverse else kept options lines) :=
  rfl

section Sorting

variable {options : List (Char × String)} {a b c : List Char}

theorem atMost_iff : atMost options a b = true ↔
    (has options 'n' = true ∧ leadingNumber a < leadingNumber b) ∨
      (has options 'n' = true → leadingNumber a = leadingNumber b) ∧
        String.ofList a ≤ String.ofList b := by
  unfold atMost
  cases has options 'n' with
  | false => simp
  | true =>
    by_cases same : leadingNumber a = leadingNumber b
    · simp [same]
    · simp [same, Int.lt_iff_le_and_ne]

theorem atMost_trans (a b c : List Char) (h : atMost options a b = true)
    (h' : atMost options b c = true) : atMost options a c = true := by
  rw [atMost_iff] at h h' ⊢
  rcases h with ⟨numbered, less⟩ | ⟨same, before⟩
  · rcases h' with ⟨-, less'⟩ | ⟨same', -⟩
    · exact .inl ⟨numbered, Int.lt_trans less less'⟩
    · exact .inl ⟨numbered, same' numbered ▸ less⟩
  · rcases h' with ⟨numbered, less'⟩ | ⟨same', before'⟩
    · exact .inl ⟨numbered, same numbered ▸ less'⟩
    · exact .inr ⟨fun numbered => (same numbered).trans (same' numbered),
        String.le_trans before before'⟩

theorem atMost_total (a b : List Char) :
    (atMost options a b || atMost options b a) = true := by
  rw [Bool.or_eq_true, atMost_iff, atMost_iff]
  by_cases numbered : has options 'n' = true
  · rcases Int.lt_trichotomy (leadingNumber a) (leadingNumber b) with less | same | more
    · exact .inl (.inl ⟨numbered, less⟩)
    · exact (String.le_total _ _).imp (fun h => .inr ⟨fun _ => same, h⟩)
        fun h => .inr ⟨fun _ => same.symm, h⟩
    · exact .inr (.inl ⟨numbered, more⟩)
  · exact (String.le_total _ _).imp (fun h => .inr ⟨fun h' => absurd h' numbered, h⟩)
      fun h => .inr ⟨fun h' => absurd h' numbered, h⟩

theorem alike_iff : alike options a b = true ↔
    if has options 'n' = true then leadingNumber a = leadingNumber b else a = b := by
  unfold alike
  split <;> simp

theorem alike_congr (a b c : List Char) (h : alike options a b = true) :
    alike options a c = alike options b c := by
  rw [alike_iff] at h
  unfold alike
  split at h
  · rename_i numbered
    rw [if_pos numbered, if_pos numbered, h]
  · rw [h]

/-- A line that stands between two that are alike is like them. -/
theorem alike_of_between (h : atMost options a b = true) (h' : atMost options b c = true)
    (same : alike options a c = true) : alike options a b = true := by
  rw [atMost_iff] at h h'
  rw [alike_iff] at same ⊢
  split
  · rename_i numbered
    rw [if_pos numbered] at same
    rcases h with ⟨-, less⟩ | ⟨same, -⟩
    · rcases h' with ⟨-, less'⟩ | ⟨same', -⟩
      · omega
      · have := same' numbered
        omega
    · exact same numbered
  · rename_i plain
    rw [if_neg plain] at same
    subst same
    have before := h.resolve_left fun h => plain h.1
    have after := h'.resolve_left fun h => plain h.1
    exact String.ofList_injective (String.le_antisymm before.2 after.2)

theorem pairwise_unlike {lines : List (List Char)}
    (ordered : lines.Pairwise fun a b => atMost options a b = true)
    (chain : lines.IsChain fun a b => alike options a b = false) :
    lines.Pairwise fun a b => alike options a b = false := by
  induction lines with
  | nil => exact .nil
  | cons a lines ih =>
    obtain ⟨first, others⟩ := List.pairwise_cons.mp ordered
    refine .cons (fun c mem => ?_) (ih others chain.tail)
    cases lines with
    | nil => cases mem
    | cons b lines =>
      have apart := (List.isChain_cons_cons.mp chain).1
      rcases List.mem_cons.mp mem with rfl | later
      · exact apart
      · rw [Bool.eq_false_iff] at apart ⊢
        have after := (List.pairwise_cons.mp others).1 c later
        exact fun same => apart (alike_of_between (first b List.mem_cons_self) after same)

/-- The lines that are kept are in order, and with the option `u` no two of them are alike. -/
theorem pairwise_kept (options : List (Char × String)) (lines : List (List Char)) :
    (kept options lines).Pairwise fun a b =>
      atMost options a b = true ∧ (has options 'u' = true → alike options a b = false) := by
  have ordered : (lines.mergeSort (atMost options)).Pairwise fun a b =>
      atMost options a b = true := List.pairwise_mergeSort atMost_trans atMost_total lines
  unfold kept
  dsimp only
  split
  · rw [heads_splitBy alike_congr]
    have left := ordered.sublist
      (List.destutter_sublist (fun a b => alike options a b = false) _)
    have unlike := pairwise_unlike left (List.isChain_destutter _ _)
    exact left.imp₂ (fun a b before apart => ⟨before, fun _ => apart⟩) unlike
  · rename_i all
    exact ordered.imp fun before => ⟨before, fun once => absurd once all⟩

theorem kept_perm (lines : List (List Char)) (all : has options 'u' = false) :
    (kept options lines).Perm lines := by
  unfold kept
  rw [all]
  exact List.mergeSort_perm lines _

theorem mem_of_mem_kept {lines : List (List Char)} {line : List Char}
    (mem : line ∈ kept options lines) : line ∈ lines := by
  apply List.mem_mergeSort.mp
  unfold kept at mem
  dsimp only at mem
  split at mem
  · rw [heads_splitBy alike_congr] at mem
    exact (List.destutter_sublist _ _).subset mem
  · exact mem

/-- For each line one is kept that is like it. -/
theorem exists_alike {lines : List (List Char)} {line : List Char} (mem : line ∈ lines) :
    ∃ first ∈ kept options lines, alike options first line = true := by
  have own (line : List Char) : alike options line line = true := by
    rw [alike_iff]
    split <;> rfl
  have sorted : line ∈ lines.mergeSort (atMost options) := List.mem_mergeSort.mpr mem
  unfold kept
  dsimp only
  split
  · exact exists_head_splitBy alike_congr own sorted
  · exact ⟨line, sorted, own line⟩

end Sorting

end SubordinateIds.Shell.Filter
