import SubordinateIds.Proofs.Configuration.Line
import SubordinateIds.Proofs.Text.Runs

/-
  Words — a line is taken apart at its runs

  A text that is split is a key and a value, and any other is blank or a single word
  (`blank_or_word`). So it has at least two runs, or none, or one; the key is the first run,
  and the value is what stands from the second run to the last (`split?_trim_eq`).
-/

namespace SubordinateIds.Line

open Text (Stretch)

/-- The text before the first `#`. -/
def body (line : List Char) : List Char := line.takeWhile (· != '#')

/-- The text is a word, perhaps with blanks around. -/
def Word (text word : List Char) : Prop :=
  ∃ before after, text = before ++ word ++ after ∧
    (∀ c ∈ before ++ after, Text.isBlank c = true) ∧
    word ≠ [] ∧ ∀ c ∈ word, Text.isBlank c = false

variable {text word key value : List Char}

theorem blank_or_word (whole : split? (Text.trim text) = none) :
    (∀ c ∈ text, Text.isBlank c = true) ∨ ∃ word, Word text word := by
  obtain ⟨before, after, around, blankBefore, blankAfter, left⟩ := Text.exists_trim text
  have blank := List.forall_mem_append.mpr ⟨blankBefore, blankAfter⟩
  rcases left with empty | ⟨⟨c, more, first, -⟩, stops⟩
  · rw [empty, List.append_nil] at around
    exact .inl (around ▸ blank)
  have filled : Text.trim text ≠ [] := by simp [first]
  refine .inr ⟨Text.trim text, before, after, around, blank, filled, ?_⟩
  rcases solid_or_exists_blank (Text.trim text) with solid | ⟨key, g, rest, cut, solid, blankG⟩
  · exact solid
  exfalso
  rw [cut, split?_append solid blankG] at whole
  split at whole
  · -- nothing but blanks would follow the key, and the text would end with one of them
    rename_i dropped
    have blank : ∀ c ∈ g :: rest, Text.isBlank c = true :=
      List.forall_mem_cons.mpr ⟨blankG, List.dropWhile_eq_nil_iff.mp dropped⟩
    rw [cut] at stops
    obtain ⟨front, c, ending, nonblank⟩ := stops.of_append (List.cons_ne_nil g rest)
    rw [blank c (by simp [ending])] at nonblank
    cases nonblank
  · cases whole

/-! ## Runs -/

theorem Word.runs (h : Word text word) : ∃ r, Text.runs text = [r] := by
  obtain ⟨before, after, rfl, blank, filled, solid⟩ := h
  obtain ⟨blankBefore, blankAfter⟩ := List.forall_mem_append.mp blank
  have alone := Text.runs_append_of_word filled solid Text.not_solid_nil
  rw [List.append_nil] at alone
  rw [Text.runs_append_of_blank_right blankAfter, Text.runs_append_of_blank_left blankBefore, alone]
  exact ⟨_, rfl⟩

/-- The key of a text is its first run, and the value reaches from the second to the last. -/
theorem Pair.runs (h : Pair text key value) : ∃ first second more,
    Text.runs text = first :: second :: more ∧ first.cut text = key ∧
      (Stretch.span (second :: more)).cut text = value := by
  obtain ⟨before, gap, after, rfl, blank, gapped, filled, solid, begins, stops⟩ := h
  simp only [List.forall_mem_append] at blank
  obtain ⟨⟨blankBefore, blankGap⟩, blankAfter⟩ := blank
  have ends : ¬Text.Solid (gap ++ value) 0 := by
    obtain ⟨g, gaps, rfl⟩ := List.exists_cons_of_ne_nil gapped
    simp [(List.forall_mem_cons.mp blankGap).1]
  have listed : Text.runs (before ++ (key ++ gap ++ value) ++ after) =
      (⟨0, key.length⟩ : Stretch).shift before.length ::
        (Text.runs value).map (Stretch.shift (before ++ (key ++ gap)).length) := by
    rw [Text.runs_append_of_blank_right blankAfter, Text.runs_append_of_blank_left blankBefore,
      List.append_assoc, Text.runs_append_of_word filled solid ends,
      Text.runs_append_of_blank_left blankGap, List.map_cons, List.map_map, List.map_map,
      Stretch.shift_comp_shift, Stretch.shift_comp_shift, List.length_append, List.length_append,
      Nat.add_assoc]
  have first : ((⟨0, key.length⟩ : Stretch).shift before.length).cut
      (before ++ (key ++ gap ++ value) ++ after) = key := by
    rw [List.append_assoc, Stretch.cut_shift, List.append_assoc, List.append_assoc,
      Stretch.cut_append (Nat.le_refl _), Stretch.cut_whole]
  have others : (Stretch.span ((Text.runs value).map
      (Stretch.shift (before ++ (key ++ gap)).length))).cut
      (before ++ (key ++ gap ++ value) ++ after) = value := by
    rw [← List.append_assoc before (key ++ gap) value, Text.cut_span_shift begins stops]
  obtain ⟨second, more, rest⟩ := List.exists_cons_of_ne_nil begins.runs_ne_nil
  rw [rest, List.map_cons] at listed others
  exact ⟨_, _, _, listed, first, others⟩

theorem split?_trim_eq (text : List Char) :
    split? (Text.trim text) =
      match Text.runs text with
      | first :: second :: more =>
        some (first.cut text, (Stretch.span (second :: more)).cut text)
      | _ => none := by
  cases found : split? (Text.trim text) with
  | none =>
    rcases blank_or_word found with blank | ⟨word, single⟩
    · rw [Text.runs_eq_nil_of_blank blank]
    · obtain ⟨r, alone⟩ := single.runs
      rw [alone]
  | some pair =>
    obtain ⟨first, second, more, listed, keyCut, valueCut⟩ := (pair_of_split? found).runs
    rw [listed]
    dsimp only
    rw [keyCut, valueCut]

/-! ## Lines -/

theorem hash_not_mem_normalize (line : List Char) : '#' ∉ normalize line := by
  intro mem
  have other := List.mem_takeWhile_imp (Text.mem_of_mem_trim mem)
  simp at other

theorem normalize_normalize (line : List Char) : normalize (normalize line) = normalize line := by
  have uncut : (normalize line).takeWhile (· != '#') = normalize line := by
    rw [List.takeWhile_eq_self_iff]
    intro c mem
    rw [bne_iff_ne]
    rintro rfl
    exact hash_not_mem_normalize line mem
  rw [normalize, uncut]
  exact Text.trim_trim _

/-- **A line is taken apart at its runs.** Of what stands before the first `#`, trimming
leaves the text from the start of the first run to the stop of the last; the key is the first
run and the value is the text from the start of the second to the stop of the last, and there
is no key and no value where there are fewer than two runs. What is left has no `#` and is
left again; a key has no blank in it, and a value none at its ends. -/
theorem runs_decide (line : List Char) :
    Text.Listing (body line) (Text.runs (body line)) ∧
    (∀ r, r ∈ Text.runs (body line) ↔ Text.IsRun (body line) r) ∧
    normalize line = (Stretch.span (Text.runs (body line))).cut (body line) ∧
    '#' ∉ normalize line ∧
    normalize (normalize line) = normalize line ∧
    split? (normalize line) =
      (match Text.runs (body line) with
      | first :: second :: more =>
        some (first.cut (body line), (Stretch.span (second :: more)).cut (body line))
      | _ => none) ∧
    ∀ key value, split? (normalize line) = some (key, value) →
      key ≠ [] ∧ (∀ c ∈ key, Text.isBlank c = false) ∧ Text.Begins value ∧ Text.Stops value := by
  have listing := Text.listing_runs (body line)
  refine ⟨listing, fun r => listing.mem_iff, (Text.cut_span_runs _).symm,
    hash_not_mem_normalize line, normalize_normalize line, split?_trim_eq _, ?_⟩
  intro key value found
  obtain ⟨before, gap, after, -, -, -, filled, solid, begins, stops⟩ := pair_of_split? found
  exact ⟨filled, solid, begins, stops⟩

end SubordinateIds.Line
