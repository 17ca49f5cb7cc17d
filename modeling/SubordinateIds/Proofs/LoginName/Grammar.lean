import Mathlib.Computability.Language
import SubordinateIds.Proofs.LoginName

/-
  The grammar of names, and where a text leaves it

  The grammar is a language: one character of a class, any number of another class, and
  perhaps a dollar sign. With a word of it in mind a text can be read from the left, until
  it has a character with which no word goes on (`Leaves`). A dollar sign needs care here,
  as words go on with it but none goes on after it. So it belongs to what is known of a
  character whether anything comes after it (`Keeps`).

  The search for a stray character knows nothing of words. It finds the character at which
  the text leaves the grammar (`stray?_eq_some_iff`), and none in a word of it. `Verdict`
  lists what can be said of a name in the order in which it is looked at, and
  `check_eq_iff` says that it is said.
-/

open scoped Computability

namespace SubordinateIds.LoginName

/-! ## The grammar -/

/-- The words of one character, of those with a property. -/
def oneOf (p : Char → Prop) : Language Char := {w | ∃ c, p c ∧ w = [c]}

/-- The words that match `[a-z_][a-z0-9._-]*[$]?`. -/
def grammar : Language Char := oneOf Starts * (oneOf Follows)∗ * (oneOf (· = '$') + 1)

variable {c : Char} {cs w before after : List Char} {p : Char → Prop}

theorem mem_kstar_oneOf : w ∈ (oneOf p)∗ ↔ ∀ c ∈ w, p c := by
  rw [Language.mem_kstar]
  constructor
  · intro h
    obtain ⟨words, rfl, single⟩ := h
    intro c mem
    obtain ⟨word, mem, within⟩ := List.mem_flatten.mp mem
    obtain ⟨d, known, rfl⟩ := single word mem
    rw [List.mem_singleton.mp within]
    exact known
  · intro h
    refine ⟨w.map ([·]), ?_, ?_⟩
    · rw [← List.flatMap_def]
      simp
    · intro word mem
      obtain ⟨c, within, rfl⟩ := List.mem_map.mp mem
      exact ⟨c, h c within, rfl⟩

theorem mem_grammar_iff :
    w ∈ grammar ↔
      ∃ first middle last, w = first :: (middle ++ last) ∧ Starts first ∧
        (∀ c ∈ middle, Follows c) ∧ (last = [] ∨ last = ['$']) := by
  rw [grammar, Language.mem_mul]
  constructor
  · intro h
    obtain ⟨front, split, last, ending, rfl⟩ := h
    obtain ⟨_, ⟨first, starts, rfl⟩, middle, follow, rfl⟩ := Language.mem_mul.mp split
    refine ⟨first, middle, last, rfl, starts, mem_kstar_oneOf.mp follow, ?_⟩
    rcases (Language.mem_add _ _ _).mp ending with ⟨_, rfl, rfl⟩ | nothing
    · exact .inr rfl
    · exact .inl nothing
  · intro h
    obtain ⟨first, middle, last, rfl, starts, follow, ending⟩ := h
    have middle' : middle ∈ (oneOf Follows)∗ := mem_kstar_oneOf.mpr follow
    refine ⟨[first] ++ middle, ?_, last, ?_, rfl⟩
    · exact Language.mem_mul.mpr ⟨[first], ⟨first, starts, rfl⟩, middle, middle', rfl⟩
    · rcases ending with rfl | rfl
      · exact .inr rfl
      · exact .inl ⟨'$', rfl, rfl⟩

theorem ne_nil_of_mem_grammar (h : w ∈ grammar) : w ≠ [] := by
  obtain ⟨first, middle, last, rfl, -⟩ := mem_grammar_iff.mp h
  exact List.cons_ne_nil _ _

/-! ## Leaving the grammar -/

/-- Some word of the grammar has the same characters up to this one, and goes on after it
exactly if the text does. So a dollar sign is only kept at the end. -/
def Keeps (before : List Char) (c : Char) (after : List Char) : Prop :=
  ∃ rest, before ++ c :: rest ∈ grammar ∧ (rest = [] ↔ after = [])

/-- This is the first character at which the text leaves the grammar. -/
def Leaves (cs : List Char) (c : Char) : Prop :=
  ∃ before after, cs = before ++ c :: after ∧ ¬Keeps before c after ∧
    ∀ front d back, before = front ++ d :: back → Keeps front d (back ++ c :: after)

/-- The text is a word without a dollar sign at its end, so that it can go on. -/
def Stem (cs : List Char) : Prop :=
  ∃ first middle, cs = first :: middle ∧ Starts first ∧ ∀ c ∈ middle, Follows c

theorem mem_grammar_iff_stem :
    w ∈ grammar ↔ Stem w ∨ ∃ stem, w = stem ++ ['$'] ∧ Stem stem := by
  rw [mem_grammar_iff]
  constructor
  · intro h
    obtain ⟨first, middle, last, rfl, starts, follow, rfl | rfl⟩ := h
    · exact .inl ⟨first, middle, by simp, starts, follow⟩
    · exact .inr ⟨first :: middle, rfl, first, middle, rfl, starts, follow⟩
  · intro h
    rcases h with stem | ⟨_, rfl, stem⟩
    · obtain ⟨first, middle, rfl, starts, follow⟩ := stem
      exact ⟨first, middle, [], by simp, starts, follow, .inl rfl⟩
    · obtain ⟨first, middle, rfl, starts, follow⟩ := stem
      exact ⟨first, middle, ['$'], rfl, starts, follow, .inr rfl⟩

theorem Stem.of_append (h : Stem (before ++ after)) (filled : before ≠ []) : Stem before := by
  obtain ⟨first, middle, spelled, starts, follow⟩ := h
  obtain ⟨d, rest, rfl⟩ := List.exists_cons_of_ne_nil filled
  rw [List.cons_append, List.cons.injEq] at spelled
  obtain ⟨rfl, rfl⟩ := spelled
  exact ⟨d, rest, rfl, starts, (List.forall_mem_append.mp follow).1⟩

theorem stem_concat_iff :
    Stem (before ++ [c]) ↔ before = [] ∧ Starts c ∨ Stem before ∧ Follows c := by
  constructor
  · intro h
    cases before with
    | nil =>
      obtain ⟨first, middle, spelled, starts, -⟩ := h
      cases spelled
      exact .inl ⟨rfl, starts⟩
    | cons d rest =>
      refine .inr ⟨h.of_append (by simp), ?_⟩
      obtain ⟨first, middle, spelled, -, follow⟩ := h
      cases spelled
      exact follow c (by simp)
  · intro h
    rcases h with ⟨rfl, starts⟩ | ⟨⟨first, middle, rfl, starts, follow⟩, follows⟩
    · exact ⟨c, [], rfl, starts, by simp⟩
    · refine ⟨first, middle ++ [c], rfl, starts, ?_⟩
      rw [List.forall_mem_append, List.forall_mem_singleton]
      exact ⟨follow, follows⟩

/-- A character is kept exactly if the text up to it is a stem, or it is the dollar sign at the
end of one. -/
theorem keeps_iff :
    Keeps before c after ↔ Stem (before ++ [c]) ∨ Stem before ∧ c = '$' ∧ after = [] := by
  constructor
  · intro h
    obtain ⟨rest, word, ends⟩ := h
    rw [List.append_cons, mem_grammar_iff_stem] at word
    rcases rest.eq_nil_or_concat with rfl | ⟨rest, d, rfl⟩
    · rw [List.append_nil] at word
      rcases word with stem | ⟨stem, spelled, h⟩
      · exact .inl stem
      · obtain ⟨rfl, last⟩ := List.append_inj' spelled rfl
        cases last
        exact .inr ⟨h, rfl, ends.mp rfl⟩
    · left
      rcases word with stem | ⟨stem, spelled, h⟩
      · exact stem.of_append (by simp)
      · rw [List.concat_eq_append, ← List.append_assoc] at spelled
        obtain ⟨rfl, -⟩ := List.append_inj' spelled rfl
        exact h.of_append (by simp)
  · intro h
    rcases h with stem | ⟨stem, rfl, rfl⟩
    · by_cases ends : after = []
      · exact ⟨[], mem_grammar_iff_stem.mpr (.inl stem), by simp [ends]⟩
      · -- any character to go on with will do
        refine ⟨['a'], mem_grammar_iff_stem.mpr (.inl ?_), by simp [ends]⟩
        rw [List.append_cons, stem_concat_iff]
        exact .inr ⟨stem, .inl (by decide)⟩
    · exact ⟨[], mem_grammar_iff_stem.mpr (.inr ⟨before, rfl, stem⟩), by simp⟩

theorem keeps_before_iff :
    (∀ front d back, before = front ++ d :: back → Keeps front d (back ++ c :: after)) ↔
      before = [] ∨ Stem before := by
  simp only [keeps_iff, List.append_eq_nil_iff, reduceCtorEq, and_false, or_false]
  constructor
  · intro h
    rcases before.eq_nil_or_concat with rfl | ⟨front, d, rfl⟩
    · exact .inl rfl
    · rw [List.concat_eq_append] at h ⊢
      exact .inr (h front d [] rfl)
  · rintro (rfl | stem) front d back spelled
    · simp at spelled
    · rw [spelled, List.append_cons] at stem
      exact stem.of_append (by simp)

theorem leaves_iff :
    Leaves cs c ↔ ∃ before after, cs = before ++ c :: after ∧ (before = [] ∨ Stem before) ∧
      ¬Stem (before ++ [c]) ∧ ¬(Stem before ∧ c = '$' ∧ after = []) := by
  simp only [Leaves, keeps_before_iff]
  simp only [keeps_iff, not_or, and_comm, and_left_comm]

theorem strayAfterStart?_eq_some_iff :
    strayAfterStart? cs = some c ↔ ∃ middle after, cs = middle ++ c :: after ∧
      (∀ d ∈ middle, Follows d) ∧ ¬Follows c ∧ ¬(c = '$' ∧ after = []) := by
  induction cs with
  | nil => simp [strayAfterStart?]
  | cons d cs ih =>
    rw [strayAfterStart?]
    constructor
    · intro found
      split at found
      · rename_i stands
        obtain ⟨middle, after, rfl, follow, stray⟩ := ih.mp found
        -- the sign cannot be the end of the text, as the stray character comes after it
        have follows : Follows d := by simpa [canFollow_iff] using stands
        exact ⟨d :: middle, after, rfl, List.forall_mem_cons.mpr ⟨follows, follow⟩, stray⟩
      · rename_i stray
        cases found
        refine ⟨[], cs, rfl, by simp, ?_⟩
        simpa [canFollow_iff] using stray
    · intro h
      obtain ⟨middle, after, spelled, follow, stray⟩ := h
      cases middle with
      | nil =>
        cases spelled
        rw [if_neg]
        simpa [canFollow_iff] using stray
      | cons m middle =>
        cases spelled
        obtain ⟨follows, follow⟩ := List.forall_mem_cons.mp follow
        rw [if_pos (by rw [canFollow_iff.mpr follows, Bool.true_or])]
        exact ih.mpr ⟨middle, after, rfl, follow, stray⟩

theorem stray?_eq_some_iff : stray? cs = some c ↔ Leaves cs c := by
  have unbegun : ¬Stem [] := by
    rintro ⟨first, middle, spelled, -⟩
    cases spelled
  rw [leaves_iff]
  cases cs with
  | nil => simp [stray?]
  | cons d cs =>
    rw [stray?]
    constructor
    · intro found
      split at found
      · rename_i starts
        obtain ⟨middle, after, rfl, follow, other, last⟩ := strayAfterStart?_eq_some_iff.mp found
        have stem : Stem (d :: middle) := ⟨d, middle, rfl, canStart_iff.mp starts, follow⟩
        refine ⟨d :: middle, after, rfl, .inr stem, ?_, fun h => last h.2⟩
        rw [stem_concat_iff]
        simp [other]
      · rename_i wrong
        cases found
        refine ⟨[], cs, rfl, .inl rfl, ?_, fun h => unbegun h.1⟩
        rw [stem_concat_iff, ← canStart_iff]
        simp [wrong, unbegun]
    · intro h
      obtain ⟨before, after, spelled, rfl | stem, wrong, last⟩ := h
      · cases spelled
        rw [stem_concat_iff, ← canStart_iff] at wrong
        rw [if_neg fun starts => wrong (.inl ⟨rfl, starts⟩)]
      · have other : ¬Follows c := by
          intro follows
          exact wrong (stem_concat_iff.mpr (.inr ⟨stem, follows⟩))
        have unsigned : ¬(c = '$' ∧ after = []) := fun h => last ⟨stem, h⟩
        obtain ⟨first, middle, rfl, starts, follow⟩ := stem
        cases spelled
        rw [if_pos (canStart_iff.mpr starts)]
        exact strayAfterStart?_eq_some_iff.mpr ⟨middle, after, rfl, follow, other, unsigned⟩

variable {name : String}

theorem stray?_eq_none_iff_mem_grammar (filled : cs ≠ []) :
    stray? cs = none ↔ cs ∈ grammar := by
  rw [stray?_eq_none_iff filled, mem_grammar_iff]

theorem forall_not_leaves_iff (filled : cs ≠ []) : (∀ c, ¬Leaves cs c) ↔ cs ∈ grammar := by
  simp only [← stray?_eq_some_iff, ← stray?_eq_none_iff_mem_grammar filled,
    Option.eq_none_iff_forall_ne_some, ne_eq]

/-! ## Verdicts -/

/-- What is said of a name, in the order in which it is looked at. -/
inductive Verdict (name : String) : Except Fault Unit → Prop where
  | empty (nothing : name = "") : Verdict name (.error .empty)
  | tooLong (long : 256 ≤ name.utf8ByteSize) : Verdict name (.error (.tooLong name.utf8ByteSize))
  | stray {c : Char} (short : name.utf8ByteSize ≤ 255) (leaves : Leaves name.toList c) :
      Verdict name (.error (.stray name c))
  | trailingHyphen (short : name.utf8ByteSize ≤ 255) (spelled : name.toList ∈ grammar)
      (hyphen : name.toList.getLast? = some '-') : Verdict name (.error (.trailingHyphen name))
  | accepted (short : name.utf8ByteSize ≤ 255) (spelled : name.toList ∈ grammar)
      (unhyphened : name.toList.getLast? ≠ some '-') : Verdict name (.ok ())

theorem check_of_leaves (short : name.utf8ByteSize ≤ 255) (leaves : Leaves name.toList c) :
    check name = .error (.stray name c) := by
  have filled : ¬name.isEmpty = true := by
    obtain ⟨before, after, spelled, -⟩ := leaves
    intro nothing
    rw [String.isEmpty_iff.mp nothing] at spelled
    simp at spelled
  have within : ¬name.utf8ByteSize ≥ lengthLimit := Nat.not_le.mpr (Nat.lt_succ_of_le short)
  rw [check, if_neg filled, if_neg within, stray?_eq_some_iff.mpr leaves]

theorem check_of_mem_grammar (short : name.utf8ByteSize ≤ 255) (spelled : name.toList ∈ grammar) :
    check name =
      if name.toList.getLast? = some '-' then .error (.trailingHyphen name) else .ok () := by
  have letters := ne_nil_of_mem_grammar spelled
  have filled : ¬name.isEmpty = true := by simpa using letters
  have within : ¬name.utf8ByteSize ≥ lengthLimit := Nat.not_le.mpr (Nat.lt_succ_of_le short)
  rw [check, if_neg filled, if_neg within, (stray?_eq_none_iff_mem_grammar letters).mpr spelled]

theorem Verdict.check_eq {r : Except Fault Unit} (h : Verdict name r) : check name = r := by
  cases h with
  | empty nothing =>
    rw [nothing]
    rfl
  | tooLong long =>
    have filled : ¬name.isEmpty = true := by
      intro nothing
      rw [String.isEmpty_iff.mp nothing] at long
      exact absurd long (by decide)
    have beyond : name.utf8ByteSize ≥ lengthLimit := long
    rw [check, if_neg filled, if_pos beyond]
  | stray short leaves => exact check_of_leaves short leaves
  | trailingHyphen short spelled hyphen => rw [check_of_mem_grammar short spelled, if_pos hyphen]
  | accepted short spelled unhyphened =>
    rw [check_of_mem_grammar short spelled, if_neg unhyphened]

theorem exists_verdict (name : String) : ∃ r, Verdict name r := by
  by_cases nothing : name = ""
  · exact ⟨_, .empty nothing⟩
  by_cases long : 256 ≤ name.utf8ByteSize
  · exact ⟨_, .tooLong long⟩
  have short : name.utf8ByteSize ≤ 255 := Nat.lt_succ_iff.mp (Nat.not_le.mp long)
  cases found : stray? name.toList with
  | some c => exact ⟨_, .stray short (stray?_eq_some_iff.mp found)⟩
  | none =>
    have filled : name.toList ≠ [] := by simpa using nothing
    have spelled := (stray?_eq_none_iff_mem_grammar filled).mp found
    by_cases hyphen : name.toList.getLast? = some '-'
    · exact ⟨_, .trailingHyphen short spelled hyphen⟩
    · exact ⟨_, .accepted short spelled hyphen⟩

theorem check_eq_iff {r : Except Fault Unit} : check name = r ↔ Verdict name r := by
  constructor
  · intro result
    obtain ⟨r', verdict⟩ := exists_verdict name
    rw [← result, verdict.check_eq]
    exact verdict
  · exact Verdict.check_eq

variable {t : String}

theorem check_eq_ok_iff_grammar :
    check name = .ok () ↔
      name.utf8ByteSize ≤ 255 ∧ name.toList ∈ grammar ∧ name.toList.getLast? ≠ some '-' := by
  rw [check_eq_iff]
  constructor
  · intro h
    cases h with
    | accepted short spelled unhyphened => exact ⟨short, spelled, unhyphened⟩
  · rintro ⟨short, spelled, unhyphened⟩
    exact .accepted short spelled unhyphened

theorem check_eq_empty_iff : check name = .error .empty ↔ name = "" := by
  rw [check_eq_iff]
  constructor
  · intro h
    cases h with
    | empty nothing => exact nothing
  · exact .empty

theorem check_eq_tooLong_iff {n : Nat} :
    check name = .error (.tooLong n) ↔ n = name.utf8ByteSize ∧ 256 ≤ name.utf8ByteSize := by
  rw [check_eq_iff]
  constructor
  · intro h
    cases h with
    | tooLong long => exact ⟨rfl, long⟩
  · rintro ⟨rfl, long⟩
    exact .tooLong long

theorem check_eq_stray_iff :
    check name = .error (.stray t c) ↔
      t = name ∧ name.utf8ByteSize ≤ 255 ∧ Leaves name.toList c := by
  rw [check_eq_iff]
  constructor
  · intro h
    cases h with
    | stray short leaves => exact ⟨rfl, short, leaves⟩
  · rintro ⟨rfl, short, leaves⟩
    exact .stray short leaves

theorem check_eq_trailingHyphen_iff :
    check name = .error (.trailingHyphen t) ↔
      t = name ∧ name.utf8ByteSize ≤ 255 ∧ name.toList ∈ grammar ∧
        name.toList.getLast? = some '-' := by
  rw [check_eq_iff]
  constructor
  · intro h
    cases h with
    | trailingHyphen short spelled hyphen => exact ⟨rfl, short, spelled, hyphen⟩
  · rintro ⟨rfl, short, spelled, hyphen⟩
    exact .trailingHyphen short spelled hyphen

/-- A name is judged by its length and by the grammar `[a-z_][a-z0-9._-]*[$]?`. It is accepted
exactly if it has 1 to 255 octets, is a word of the grammar and does not end in a hyphen.
Otherwise it is refused for being empty, for its length, for the first character at which it
leaves the grammar, or, if there is none, for the hyphen. -/
theorem grammar_decides (name : String) :
    (check name = .ok () ↔ 1 ≤ name.utf8ByteSize ∧ name.utf8ByteSize ≤ 255 ∧
      name.toList ∈ grammar ∧ name.toList.getLast? ≠ some '-') ∧
    (check name = .error .empty ↔ name = "") ∧
    (∀ n, check name = .error (.tooLong n) ↔
      n = name.utf8ByteSize ∧ 256 ≤ name.utf8ByteSize) ∧
    (∀ t c, check name = .error (.stray t c) ↔
      t = name ∧ name.utf8ByteSize ≤ 255 ∧ Leaves name.toList c) ∧
    (∀ t, check name = .error (.trailingHyphen t) ↔
      t = name ∧ name ≠ "" ∧ name.utf8ByteSize ≤ 255 ∧ (∀ c, ¬Leaves name.toList c) ∧
        name.toList.getLast? = some '-') := by
  refine ⟨?_, check_eq_empty_iff, fun n => check_eq_tooLong_iff, fun t c => check_eq_stray_iff,
    fun t => ?_⟩
  · rw [check_eq_ok_iff_grammar]
    constructor
    · intro h
      obtain ⟨short, spelled, unhyphened⟩ := h
      refine ⟨Nat.one_le_iff_ne_zero.mpr ?_, short, spelled, unhyphened⟩
      intro nothing
      exact ne_nil_of_mem_grammar spelled (by simpa using nothing)
    · exact fun h => h.2
  · rw [check_eq_trailingHyphen_iff]
    constructor
    · intro h
      obtain ⟨rfl, short, spelled, hyphen⟩ := h
      have filled := ne_nil_of_mem_grammar spelled
      exact ⟨rfl, by simpa using filled, short, (forall_not_leaves_iff filled).mpr spelled, hyphen⟩
    · intro h
      obtain ⟨rfl, filled, short, kept, hyphen⟩ := h
      have filled : t.toList ≠ [] := by simpa using filled
      exact ⟨rfl, short, (forall_not_leaves_iff filled).mp kept, hyphen⟩

end SubordinateIds.LoginName
