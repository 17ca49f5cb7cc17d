import SubordinateIds.Kind
import SubordinateIds.LoginName
import SubordinateIds.Proofs.Text.Decimal

/-
  What a login name looks like

  `Portable` is the grammar of names, without the scan that looks for the first fault:
  a name is accepted exactly if it is portable (`check_eq_ok_iff`).

  What matters of the grammar to those who hand names on is what a name cannot be taken
  for. It begins with a character that no option, no number and no absolute path begins
  with, and no character in it is a slash or a blank (`Unmistakable`).
-/

namespace SubordinateIds.LoginName

/-- The characters that a name starts with. -/
def Starts (c : Char) : Prop := ('a' ≤ c ∧ c ≤ 'z') ∨ c = '_'

/-- The characters that a name goes on with. -/
def Follows (c : Char) : Prop :=
  ('a' ≤ c ∧ c ≤ 'z') ∨ ('0' ≤ c ∧ c ≤ '9') ∨ c = '.' ∨ c = '_' ∨ c = '-'

/-- A name has at most 255 octets. It is one character to start with, any number to go on
with, and possibly a dollar sign, and it does not end in a hyphen. -/
structure Portable (name : String) : Prop where
  short : name.utf8ByteSize ≤ 255
  spelled : ∃ first middle last, name.toList = first :: (middle ++ last) ∧ Starts first ∧
    (∀ c ∈ middle, Follows c) ∧ (last = [] ∨ last = ['$'])
  unhyphened : name.toList.getLast? ≠ some '-'

/-- The name is taken for no option, no number and no path, and for one word. -/
structure Unmistakable (name : String) : Prop where
  filled : name ≠ ""
  notOption : name.toList.head? ≠ some '-'
  notNumber : ∀ n, Decimal.read name ≠ .ok n
  notPath : '/' ∉ name.toList
  oneWord : ∀ c ∈ name.toList, Text.isBlank c = false

/-! ## Names are accepted by the grammar -/

variable {name : String} {c : Char} {cs : List Char}

theorem isLower_iff : c.isLower = true ↔ 'a' ≤ c ∧ c ≤ 'z' := by
  have spelled : c.isLower = (decide ('a' ≤ c) && decide (c ≤ 'z')) := rfl
  rw [spelled, Bool.and_eq_true, decide_eq_true_iff, decide_eq_true_iff]

theorem isDigit_iff : c.isDigit = true ↔ '0' ≤ c ∧ c ≤ '9' := by
  have spelled : c.isDigit = (decide ('0' ≤ c) && decide (c ≤ '9')) := rfl
  rw [spelled, Bool.and_eq_true, decide_eq_true_iff, decide_eq_true_iff]

theorem canStart_iff : canStart c = true ↔ Starts c := by
  simp [canStart, Starts, isLower_iff]

theorem canFollow_iff : canFollow c = true ↔ Follows c := by
  simp [canFollow, Follows, isLower_iff, isDigit_iff, or_assoc]

theorem strayAfterStart?_eq_none_iff :
    strayAfterStart? cs = none ↔
      ∃ middle last, cs = middle ++ last ∧ (∀ c ∈ middle, Follows c) ∧
        (last = [] ∨ last = ['$']) := by
  induction cs with
  | nil =>
    refine ⟨fun _ => ⟨[], [], rfl, by simp, .inl rfl⟩, fun _ => rfl⟩
  | cons c cs ih =>
    rw [strayAfterStart?]
    constructor
    · intro none
      split at none
      · rename_i stands
        obtain ⟨middle, last, rfl, follow, ending⟩ := ih.mp none
        rw [Bool.or_eq_true, canFollow_iff, Bool.and_eq_true, beq_iff_eq,
          List.isEmpty_iff] at stands
        rcases stands with follows | ⟨rfl, empty⟩
        · exact ⟨c :: middle, last, rfl, List.forall_mem_cons.mpr ⟨follows, follow⟩, ending⟩
        · exact ⟨[], ['$'], by rw [empty]; rfl, by simp, .inr rfl⟩
      · cases none
    · intro h
      obtain ⟨middle, last, spelled, follow, ending⟩ := h
      cases middle with
      | nil =>
        -- what is left is the dollar sign
        rcases ending with rfl | rfl
        · cases spelled
        · cases spelled
          rfl
      | cons d middle =>
        cases spelled
        obtain ⟨follows, follow⟩ := List.forall_mem_cons.mp follow
        rw [if_pos (by rw [canFollow_iff.mpr follows, Bool.true_or])]
        exact ih.mpr ⟨middle, last, rfl, follow, ending⟩

theorem stray?_eq_none_iff (filled : cs ≠ []) :
    stray? cs = none ↔
      ∃ first middle last, cs = first :: (middle ++ last) ∧ Starts first ∧
        (∀ c ∈ middle, Follows c) ∧ (last = [] ∨ last = ['$']) := by
  cases cs with
  | nil => exact absurd rfl filled
  | cons c cs =>
    rw [stray?]
    constructor
    · intro none
      split at none
      · rename_i starts
        obtain ⟨middle, last, rfl, follow, ending⟩ := strayAfterStart?_eq_none_iff.mp none
        exact ⟨c, middle, last, rfl, canStart_iff.mp starts, follow, ending⟩
      · cases none
    · intro h
      obtain ⟨first, middle, last, spelled, starts, follow, ending⟩ := h
      cases spelled
      rw [if_pos (canStart_iff.mpr starts)]
      exact strayAfterStart?_eq_none_iff.mpr ⟨middle, last, rfl, follow, ending⟩

/-- The names that are accepted are those of the grammar. -/
theorem check_eq_ok_iff : check name = .ok () ↔ Portable name := by
  have limit : lengthLimit = 256 := rfl
  unfold check
  constructor
  · intro accepted
    split at accepted
    · cases accepted
    · rename_i filled
      have filled : name.toList ≠ [] := by simpa using filled
      split at accepted
      · cases accepted
      · split at accepted
        · cases accepted
        · rename_i nothingStray
          split at accepted
          · cases accepted
          · rename_i unhyphened
            exact ⟨by omega, (stray?_eq_none_iff filled).mp nothingStray, unhyphened⟩
  · intro h
    obtain ⟨short, spelled, unhyphened⟩ := h
    have filled : name.toList ≠ [] := by
      obtain ⟨first, middle, last, letters, -⟩ := spelled
      rw [letters]
      exact List.cons_ne_nil _ _
    have nothingStray := (stray?_eq_none_iff filled).mpr spelled
    have filled : ¬name.isEmpty = true := by simpa using filled
    rw [if_neg filled, if_neg (by omega), nothingStray]
    exact if_neg unhyphened

/-! ## What a name cannot be taken for -/

theorem Starts.follows (h : Starts c) : Follows c := by
  rcases h with letter | underscore
  · exact .inl letter
  · exact .inr (.inr (.inr (.inl underscore)))

theorem Starts.ne (h : Starts c) : c ≠ '-' ∧ c.isDigit ≠ true := by
  refine ⟨?_, ?_⟩
  · intro same
    subst same
    exact absurd (canStart_iff.mpr h) (by decide)
  · intro digit
    rw [isDigit_iff] at digit
    rcases h with ⟨low, -⟩ | rfl
    · exact absurd (Char.le_trans low digit.2) (by decide)
    · exact absurd digit.2 (by decide)

theorem Portable.mem (h : Portable name) (mem : c ∈ name.toList) : Follows c ∨ c = '$' := by
  obtain ⟨first, middle, last, letters, starts, follow, ending⟩ := h.spelled
  rw [letters, List.mem_cons, List.mem_append] at mem
  rcases mem with rfl | within | atEnd
  · exact .inl starts.follows
  · exact .inl (follow c within)
  · rcases ending with rfl | rfl
    · cases atEnd
    · exact .inr (List.mem_singleton.mp atEnd)

theorem Portable.mem_plain (h : Portable name) (mem : c ∈ name.toList) :
    c ≠ '/' ∧ Text.isBlank c = false := by
  -- the characters of a name are between the first blank and those beyond ASCII
  have filled (low : 33 ≤ c.toNat) (high : c.toNat ≤ 122) : Text.isBlank c = false := by
    simp only [Text.isBlank, Bool.or_eq_false_iff, Bool.and_eq_false_iff, decide_eq_false_iff_not,
      beq_eq_false_iff_ne]
    omega
  rcases h.mem mem with (⟨low, high⟩ | ⟨low, high⟩ | rfl | rfl | rfl) | rfl
  · have low : 97 ≤ c.toNat := UInt32.le_iff_toNat_le.mp low
    exact ⟨fun same => absurd low (by rw [same]; decide),
      filled (by omega) (UInt32.le_iff_toNat_le.mp high)⟩
  · have low : 48 ≤ c.toNat := UInt32.le_iff_toNat_le.mp low
    have high : c.toNat ≤ 57 := UInt32.le_iff_toNat_le.mp high
    exact ⟨fun same => absurd low (by rw [same]; decide), filled (by omega) (by omega)⟩
  all_goals exact ⟨by decide, filled (by decide) (by decide)⟩

theorem Portable.unmistakable (h : Portable name) : Unmistakable name := by
  obtain ⟨first, middle, last, letters, starts, -⟩ := h.spelled
  obtain ⟨hyphen, digit⟩ := starts.ne
  refine ⟨?_, ?_, ?_, ?_, ?_⟩
  · intro empty
    rw [empty] at letters
    cases letters
  · rw [letters]
    exact fun same => hyphen (Option.some.inj same)
  · intro n number
    obtain ⟨-, digits, -⟩ := Decimal.read_eq_ok_iff.mp number
    rw [letters] at digits
    exact digit (digits first List.mem_cons_self)
  · intro slash
    exact (h.mem_plain slash).1 rfl
  · intro c mem
    exact (h.mem_plain mem).2

theorem ne_assignFlag {name : String} (accepted : check name = .ok ()) (kind : Kind) :
    name ≠ kind.assignFlag := by
  intro same
  subst same
  have hyphen : kind.assignFlag.toList.head? = some '-' := by cases kind <;> rfl
  exact (check_eq_ok_iff.mp accepted).unmistakable.notOption hyphen

end SubordinateIds.LoginName
