import SubordinateIds.Proofs.Text.Blank

/-
  Runs — the stretches of a text that have no blank in them

  A run is a stretch of characters that are not blank, with a blank or an end of the text
  on either side (`IsRun`). `runs` lists the runs of a text from left to right: every one
  of them, and nothing else (`listing_runs`, `Listing.mem_iff`). The runs of a text that is
  put together are those of its parts, moved to where the parts stand. What is left of a
  text when it is trimmed is what stands between the start of its first run and the stop of
  its last (`cut_span_runs`).
-/

namespace SubordinateIds.Text

/-- A stretch of a text: the places from `start` on that come before `stop`. -/
@[ext]
structure Stretch where
  start : Nat
  stop : Nat
  deriving DecidableEq, Repr

namespace Stretch

/-- The stretch, so many places further on. -/
def shift (n : Nat) (s : Stretch) : Stretch := ⟨s.start + n, s.stop + n⟩

/-- What stands in the stretch. -/
def cut (s : Stretch) (cs : List Char) : List Char := cs.extract s.start s.stop

/-- From the start of the first stretch to the stop of the last. Without any it is empty. -/
def span (rs : List Stretch) : Stretch := ⟨(rs.headD ⟨0, 0⟩).start, (rs.getLastD ⟨0, 0⟩).stop⟩

variable {n m : Nat} {s : Stretch} {rs : List Stretch} {before cs after : List Char}

@[simp] theorem shift_start : (s.shift n).start = s.start + n := rfl

@[simp] theorem shift_stop : (s.shift n).stop = s.stop + n := rfl

@[simp] theorem shift_zero : shift 0 = id := rfl

@[simp] theorem shift_comp_shift : shift n ∘ shift m = shift (n + m) := by
  funext s
  simp [shift, Nat.add_assoc, Nat.add_comm n]

theorem span_map_shift (filled : rs ≠ []) : span (rs.map (shift n)) = (span rs).shift n := by
  obtain ⟨r, more, rfl⟩ := List.exists_cons_of_ne_nil filled
  rw [span, List.getLastD_eq_getLast?, List.getLast?_map, span, List.getLastD_eq_getLast?,
    List.getLast?_eq_some_getLast filled]
  rfl

theorem cut_shift : (s.shift before.length).cut (before ++ cs) = s.cut cs := by
  rw [cut, List.extract_eq_take_drop, shift_start, shift_stop, Nat.add_sub_add_right,
    Nat.add_comm, ← List.drop_drop, List.drop_left]
  rfl

theorem cut_append (inside : s.stop ≤ cs.length) : s.cut (cs ++ after) = s.cut cs := by
  have enough : s.stop - s.start ≤ (cs.drop s.start).length := by
    rw [List.length_drop]
    omega
  rw [cut, List.extract_eq_take_drop, List.drop_append, List.take_append_of_le_length enough]
  rfl

theorem cut_whole : (⟨0, cs.length⟩ : Stretch).cut cs = cs := by simp [cut]

end Stretch

/-! ## Runs -/

/-- The character at the place is there and is not blank. -/
def Solid (cs : List Char) (i : Nat) : Prop := ∃ c, cs[i]? = some c ∧ isBlank c = false

/-- The stretch is not empty and has no blank in it, and neither of its neighbours could be
added to it. -/
structure IsRun (cs : List Char) (r : Stretch) : Prop where
  filled : r.start < r.stop
  solid : ∀ i, r.start ≤ i → i < r.stop → Solid cs i
  before : ∀ i, i + 1 = r.start → ¬Solid cs i
  after : ¬Solid cs r.stop

/-- The stretches are the runs of the text, from left to right. -/
structure Listing (cs : List Char) (rs : List Stretch) : Prop where
  runs : ∀ r ∈ rs, IsRun cs r
  covers : ∀ i, Solid cs i → ∃ r ∈ rs, r.start ≤ i ∧ i < r.stop
  ordered : rs.Pairwise (fun r s => r.stop < s.start)

/-- The runs of a text. A character that is not blank makes the run that follows it at once
longer, or is a run of its own. -/
def runs : List Char → List Stretch
  | [] => []
  | c :: cs =>
    if isBlank c then (runs cs).map (Stretch.shift 1)
    else
      match runs cs with
      | ⟨0, stop⟩ :: more => ⟨0, stop + 1⟩ :: more.map (Stretch.shift 1)
      | later => ⟨0, 1⟩ :: later.map (Stretch.shift 1)

variable {c : Char} {before cs after key : List Char} {r s : Stretch} {rs more : List Stretch}

@[simp] theorem not_solid_nil {i : Nat} : ¬Solid [] i := by simp [Solid]

@[simp] theorem solid_cons_zero : Solid (c :: cs) 0 ↔ isBlank c = false := by simp [Solid]

@[simp] theorem solid_cons_succ {i : Nat} : Solid (c :: cs) (i + 1) ↔ Solid cs i := by simp [Solid]

theorem Solid.lt_length {i : Nat} (h : Solid cs i) : i < cs.length := by
  obtain ⟨c, there, -⟩ := h
  exact (List.getElem?_eq_some_iff.mp there).1

namespace IsRun

theorem stop_le (h : IsRun cs r) : r.stop ≤ cs.length := by
  have filled := h.filled
  have last := (h.solid (r.stop - 1) (by omega) (by omega)).lt_length
  omega

theorem start_le (hr : IsRun cs r) (hs : IsRun cs s) {i : Nat} (inR : r.start ≤ i)
    (inS : i < s.stop) : r.start ≤ s.start := by
  by_contra later
  -- then the place before the run would be one of the other
  have neighbour := hs.solid (r.start - 1) (by omega) (by omega)
  exact hr.before _ (by omega) neighbour

theorem stop_ge (hr : IsRun cs r) (hs : IsRun cs s) {i : Nat} (inR : i < r.stop)
    (inS : s.start ≤ i) : s.stop ≤ r.stop := by
  by_contra earlier
  exact hr.after (hs.solid r.stop (by omega) (by omega))

theorem eq_of_common (hr : IsRun cs r) (hs : IsRun cs s) {i : Nat} (inR : r.start ≤ i ∧ i < r.stop)
    (inS : s.start ≤ i ∧ i < s.stop) : r = s := by
  have starts := Nat.le_antisymm (hr.start_le hs inR.1 inS.2) (hs.start_le hr inS.1 inR.2)
  have stops := Nat.le_antisymm (hs.stop_ge hr inS.2 inR.1) (hr.stop_ge hs inR.2 inS.1)
  exact Stretch.ext starts stops

/-- A run stays one behind a further character, if the two do not meet or that one is blank. -/
theorem shift (h : IsRun cs r) (apart : r.start = 0 → isBlank c = true) :
    IsRun (c :: cs) (r.shift 1) where
  filled := Nat.add_lt_add_right h.filled 1
  solid i low high := by
    obtain ⟨i, rfl⟩ := Nat.exists_eq_add_of_le' (Nat.le_trans (Nat.le_add_left 1 _) low)
    exact solid_cons_succ.mpr (h.solid i (by simpa using low) (by simpa using high))
  before i next := by
    cases i with
    | zero => simp [apart (by simpa using next.symm)]
    | succ i => simpa using h.before i (by simpa using next)
  after := by simpa using h.after

theorem extend {stop : Nat} (h : IsRun cs ⟨0, stop⟩) (filled : isBlank c = false) :
    IsRun (c :: cs) ⟨0, stop + 1⟩ where
  filled := Nat.succ_pos stop
  solid i _ high := by
    cases i with
    | zero => exact solid_cons_zero.mpr filled
    | succ i => exact solid_cons_succ.mpr (h.solid i (Nat.zero_le i) (Nat.lt_of_succ_lt_succ high))
  before _ next := absurd next (Nat.succ_ne_zero _)
  after := by simpa using h.after

theorem single (apart : ¬Solid cs 0) (filled : isBlank c = false) : IsRun (c :: cs) ⟨0, 1⟩ where
  filled := Nat.one_pos
  solid i _ high := by
    obtain rfl : i = 0 := Nat.lt_one_iff.mp high
    exact solid_cons_zero.mpr filled
  before _ next := absurd next (Nat.succ_ne_zero _)
  after := by simpa using apart

end IsRun

namespace Listing

theorem mem_iff (h : Listing cs rs) : r ∈ rs ↔ IsRun cs r := by
  constructor
  · exact h.runs r
  · intro run
    obtain ⟨s, mem, inS⟩ := h.covers r.start (run.solid _ (Nat.le_refl _) run.filled)
    rwa [run.eq_of_common (h.runs s mem) ⟨Nat.le_refl _, run.filled⟩ inS]

theorem covers_succ (h : Listing cs rs) {i : Nat} (solid : Solid (c :: cs) (i + 1)) :
    ∃ r ∈ rs.map (Stretch.shift 1), r.start ≤ i + 1 ∧ i + 1 < r.stop := by
  obtain ⟨r, mem, low, high⟩ := h.covers i (solid_cons_succ.mp solid)
  exact ⟨r.shift 1, List.mem_map_of_mem mem, Nat.succ_le_succ low, Nat.succ_lt_succ high⟩

theorem ordered_shift (h : Listing cs rs) :
    (rs.map (Stretch.shift 1)).Pairwise (fun r s => r.stop < s.start) :=
  h.ordered.map _ fun _ _ order => Nat.succ_lt_succ order

theorem shift (h : Listing cs rs) (blank : isBlank c = true) :
    Listing (c :: cs) (rs.map (Stretch.shift 1)) where
  runs := by
    rw [List.forall_mem_map]
    exact fun r mem => (h.runs r mem).shift fun _ => blank
  covers i solid := by
    cases i with
    | zero => simp [blank] at solid
    | succ i => exact h.covers_succ solid
  ordered := h.ordered_shift

/-- The first run takes in a character put in front of it, and the others stay. -/
theorem extend {stop : Nat} (h : Listing cs (⟨0, stop⟩ :: more)) (filled : isBlank c = false) :
    Listing (c :: cs) (⟨0, stop + 1⟩ :: more.map (Stretch.shift 1)) := by
  obtain ⟨behind, -⟩ := List.pairwise_cons.mp h.ordered
  constructor
  · rw [List.forall_mem_cons, List.forall_mem_map]
    refine ⟨(h.runs _ List.mem_cons_self).extend filled, fun r mem => ?_⟩
    have order := behind r mem
    exact (h.runs r (List.mem_cons_of_mem _ mem)).shift fun start => by omega
  · intro i solid
    cases i with
    | zero => exact ⟨_, List.mem_cons_self, Nat.le_refl 0, Nat.succ_pos stop⟩
    | succ i =>
      obtain ⟨r, mem, low, high⟩ := h.covers_succ solid
      rcases List.mem_cons.mp mem with rfl | mem
      · exact ⟨_, List.mem_cons_self, Nat.zero_le _, high⟩
      · exact ⟨r, List.mem_cons_of_mem _ mem, low, high⟩
  · rw [List.pairwise_cons, List.forall_mem_map]
    exact ⟨fun r mem => Nat.succ_lt_succ (behind r mem), (List.pairwise_cons.mp h.ordered_shift).2⟩

theorem single (h : Listing cs rs) (apart : ¬Solid cs 0) (filled : isBlank c = false) :
    Listing (c :: cs) (⟨0, 1⟩ :: rs.map (Stretch.shift 1)) := by
  have positive (r) (mem : r ∈ rs) : 0 < r.start := by
    by_contra start
    have run := h.runs r mem
    have filled := run.filled
    exact apart (run.solid 0 (by omega) (by omega))
  constructor
  · rw [List.forall_mem_cons, List.forall_mem_map]
    refine ⟨IsRun.single apart filled, fun r mem => (h.runs r mem).shift fun start => ?_⟩
    exact absurd start (Nat.ne_of_gt (positive r mem))
  · intro i solid
    cases i with
    | zero => exact ⟨_, List.mem_cons_self, Nat.le_refl 0, Nat.one_pos⟩
    | succ i =>
      obtain ⟨r, mem, within⟩ := h.covers_succ solid
      exact ⟨r, List.mem_cons_of_mem _ mem, within⟩
  · rw [List.pairwise_cons, List.forall_mem_map]
    exact ⟨fun r mem => Nat.succ_lt_succ (positive r mem), h.ordered_shift⟩

theorem exists_cons (h : Listing cs rs) (start : Solid cs 0) :
    ∃ stop more, rs = ⟨0, stop⟩ :: more := by
  obtain ⟨r, mem, low, -⟩ := h.covers 0 start
  cases rs with
  | nil => cases mem
  | cons s more =>
    have first : s.start = 0 := by
      rcases List.mem_cons.mp mem with rfl | mem
      · omega
      · have order := List.rel_of_pairwise_cons h.ordered mem
        omega
    exact ⟨s.stop, more, by rw [← first]⟩

theorem exists_concat (h : Listing cs rs) (stops : Stops cs) :
    ∃ earlier start, rs = earlier ++ [⟨start, cs.length⟩] := by
  obtain ⟨front, c, rfl, nonblank⟩ := stops
  obtain ⟨r, mem, -, high⟩ := h.covers front.length ⟨c, by simp, nonblank⟩
  rw [List.length_append, List.length_singleton]
  rcases List.eq_nil_or_concat rs with rfl | ⟨earlier, last, rfl⟩
  · cases mem
  rw [List.concat_eq_append] at *
  have run := h.runs last (by simp)
  have bound := run.stop_le
  have filled := run.filled
  rw [List.length_append, List.length_singleton] at bound
  have ends : last.stop = front.length + 1 := by
    rcases List.mem_append.mp mem with mem | mem
    · have order := (List.pairwise_append.mp h.ordered).2.2 r mem last List.mem_cons_self
      omega
    · cases List.mem_singleton.mp mem
      omega
  exact ⟨earlier, last.start, by rw [← ends]⟩

end Listing

/-! ## The runs of a text -/

/-- What `runs` lists are the runs. -/
theorem listing_runs (cs : List Char) : Listing cs (runs cs) := by
  induction cs with
  | nil => exact ⟨by simp [runs], by simp, by simp [runs]⟩
  | cons c cs ih =>
    unfold runs
    split
    · exact ih.shift ‹_›
    · rename_i filled
      rw [Bool.not_eq_true] at filled
      split
      · rename_i found
        rw [found] at ih
        exact ih.extend filled
      · rename_i other
        -- a run at the start would be listed first
        refine ih.single (fun start => ?_) filled
        obtain ⟨stop, more, found⟩ := ih.exists_cons start
        exact other stop more found

theorem runs_cons_of_blank (blank : isBlank c = true) :
    runs (c :: cs) = (runs cs).map (Stretch.shift 1) := by
  rw [runs, if_pos blank]

theorem runs_cons_of_apart (apart : ¬Solid cs 0) (filled : isBlank c = false) :
    runs (c :: cs) = ⟨0, 1⟩ :: (runs cs).map (Stretch.shift 1) := by
  rw [runs, if_neg (by simp [filled])]
  split
  · rename_i found
    -- the text behind the character would begin with a run
    have run : IsRun cs _ := (listing_runs cs).runs _ (by rw [found]; exact List.mem_cons_self)
    exact absurd (run.solid 0 (Nat.le_refl 0) run.filled) apart
  · rfl

theorem runs_append_of_blank_left (blank : ∀ c ∈ before, isBlank c = true) :
    runs (before ++ cs) = (runs cs).map (Stretch.shift before.length) := by
  induction before with
  | nil => simp
  | cons c before ih =>
    obtain ⟨blankC, blank⟩ := List.forall_mem_cons.mp blank
    rw [List.cons_append, runs_cons_of_blank blankC, ih blank, List.map_map,
      Stretch.shift_comp_shift, List.length_cons, Nat.add_comm]

theorem runs_eq_nil_of_blank (blank : ∀ c ∈ cs, isBlank c = true) : runs cs = [] := by
  have shifted : runs (cs ++ []) = [] := runs_append_of_blank_left blank
  rwa [List.append_nil] at shifted

theorem runs_append_of_blank_right (blank : ∀ c ∈ after, isBlank c = true) :
    runs (cs ++ after) = runs cs := by
  induction cs with
  | nil => exact runs_eq_nil_of_blank blank
  | cons c cs ih => rw [List.cons_append, runs, ih, runs]

/-- A word is the first run of a text that begins with it, if the word ends there. -/
theorem runs_append_of_word (filled : key ≠ []) (solid : ∀ c ∈ key, isBlank c = false)
    (ends : ¬Solid cs 0) :
    runs (key ++ cs) = ⟨0, key.length⟩ :: (runs cs).map (Stretch.shift key.length) := by
  induction key with
  | nil => exact absurd rfl filled
  | cons c key ih =>
    obtain ⟨solidC, solid⟩ := List.forall_mem_cons.mp solid
    cases key with
    | nil => exact runs_cons_of_apart ends solidC
    | cons d key =>
      rw [List.cons_append, runs, if_neg (by simp [solidC]), ih (List.cons_ne_nil d key) solid]
      simp [Nat.add_comm 1]

/-! ## What is left of a text -/

theorem Begins.runs_eq (begins : Begins cs) : ∃ stop more, runs cs = ⟨0, stop⟩ :: more := by
  obtain ⟨c, rest, rfl, filled⟩ := begins
  exact (listing_runs _).exists_cons (solid_cons_zero.mpr filled)

theorem Begins.runs_ne_nil (begins : Begins cs) : runs cs ≠ [] := by
  obtain ⟨stop, more, first⟩ := begins.runs_eq
  rw [first]
  exact List.cons_ne_nil _ more

/-- The runs of a text without blanks at its ends reach from one end to the other. -/
theorem span_runs (begins : Begins cs) (stops : Stops cs) :
    Stretch.span (runs cs) = ⟨0, cs.length⟩ := by
  obtain ⟨stop, more, first⟩ := begins.runs_eq
  obtain ⟨earlier, start, last⟩ := (listing_runs _).exists_concat stops
  rw [Stretch.span, last, List.getLastD_concat, ← last, first]
  rfl

theorem cut_span_shift (begins : Begins cs) (stops : Stops cs) :
    (Stretch.span ((runs cs).map (Stretch.shift before.length))).cut (before ++ cs ++ after) =
      cs := by
  rw [Stretch.span_map_shift begins.runs_ne_nil, span_runs begins stops, List.append_assoc,
    Stretch.cut_shift, Stretch.cut_append (Nat.le_refl _), Stretch.cut_whole]

/-- What is left of a text when it is trimmed stands from the start of its first run to the
stop of its last. -/
theorem cut_span_runs (cs : List Char) : (Stretch.span (runs cs)).cut cs = trim cs := by
  obtain ⟨before, after, whole, blankBefore, blankAfter, left⟩ := exists_trim cs
  generalize trim cs = mid at whole left
  rw [whole, runs_append_of_blank_right blankAfter, runs_append_of_blank_left blankBefore]
  rcases left with rfl | ⟨begins, stops⟩
  · rfl
  · exact cut_span_shift begins stops

end SubordinateIds.Text
