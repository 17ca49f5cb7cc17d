import SubordinateIds.Shell.Formula
import Mathlib.Data.Option.Basic

/-
  Formulas — what sums come to is a number of 64 bits

  A number that does not fit into 64 bits is replaced by the only one that fits and is like it
  modulo 2 ^ 64 (`wrap64_eq_iff`). The operators keep their results in range (`fits_apply`), for
  two different reasons: most of them wrap what they come to, while a remainder and a number
  that is shifted to the right are no larger than what they come from.

  A formula that was read has no other numbers than such (`fits_of_read?`), and so its value is
  one, and all that it assigns (`fits_value`).
-/

namespace SubordinateIds.Shell

/-! ## Numbers of 64 bits -/

theorem fits64_iff {n : Int} :
    fits64 n = true ↔ -9223372036854775808 ≤ n ∧ n ≤ 9223372036854775807 := by
  rw [fits64, Bool.and_eq_true, decide_eq_true_iff, decide_eq_true_iff]

theorem fits64_wrap64 (n : Int) : fits64 (wrap64 n) = true := by
  rw [fits64_iff, wrap64]
  omega

/-- The number that takes the place of another one is the only one that fits and is like it. -/
theorem wrap64_eq_iff {n m : Int} :
    wrap64 n = m ↔ fits64 m = true ∧ m % 18446744073709551616 = n % 18446744073709551616 := by
  rw [fits64_iff, wrap64]
  omega

/-- What lies between zero and a number that fits does so as well. -/
theorem fits64_of_between {n m : Int} (fits : fits64 m = true)
    (between : 0 ≤ n ∧ n ≤ m ∨ m ≤ n ∧ n ≤ 0) : fits64 n = true := by
  rw [fits64_iff] at *
  omega

theorem fits64_tmod {a : Int} (b : Int) (fits : fits64 a = true) : fits64 (a.tmod b) = true := by
  have less : (a.tmod b).natAbs ≤ a.natAbs := by
    rw [Int.natAbs_tmod]
    exact Nat.mod_le _ _
  refine fits64_of_between fits ?_
  rcases Int.le_total 0 a with sign | sign
  · have := Int.tmod_nonneg b sign
    omega
  · have := Int.tmod_nonneg b (Int.neg_nonneg_of_nonpos sign)
    rw [Int.neg_tmod] at this
    omega

theorem fits64_shiftRight {a : Int} (n : Nat) (fits : fits64 a = true) :
    fits64 (a >>> n) = true := by
  refine fits64_of_between fits ?_
  rcases Int.le_total 0 a with sign | sign
  · exact .inl ⟨Int.le_shiftRight_of_nonneg sign, Int.shiftRight_le_of_nonneg sign⟩
  · exact .inr ⟨Int.le_shiftRight_of_nonpos sign, Int.shiftRight_le_of_nonpos sign⟩

theorem fits64_ite {c : Prop} [Decidable c] {n m : Int} (yes : fits64 n = true)
    (no : fits64 m = true) : fits64 (if c then n else m) = true := by
  split
  · exact yes
  · exact no

/-- What an operator makes of numbers of 64 bits is one. -/
theorem fits_apply {operator : Operator} {a b n : Int} (fits : fits64 a = true)
    (h : operator.apply a b = some n) : fits64 n = true := by
  cases operator <;> simp only [Operator.apply, Option.some.injEq] at h
  case divide | remainder =>
    split at h <;> cases h
    first | exact fits64_wrap64 _ | exact fits64_tmod b fits
  case shiftRight => exact h ▸ fits64_shiftRight _ fits
  case less | lessEqual | greater | greaterEqual | equal | unequal => exact h ▸ fits64_ite rfl rfl
  all_goals exact h ▸ fits64_wrap64 _

namespace Formula

/-! ## The numbers of a formula -/

/-- All numbers of a formula have 64 bits. -/
def Fits : Formula → Prop
  | .number n => fits64 n = true
  | .var _ => True
  | .negative a | .complement a | .denial a | .assign _ _ a => a.Fits
  | .binary _ a b | .both a b | .either a b => a.Fits ∧ b.Fits
  | .choice condition yes no => condition.Fits ∧ yes.Fits ∧ no.Fits

/-- The number of a token has 64 bits. -/
def Token.Fits : Token → Prop
  | .number n => fits64 n = true
  | _ => True

/-- The numbers of tokens have 64 bits. -/
def TokensFit (tokens : List Token) : Prop := ∀ token ∈ tokens, token.Fits

theorem fits_tokens {fuel : Nat} {cs : List Char} {found : List Token}
    (h : tokens fuel cs = some found) : TokensFit found := by
  induction fuel generalizing cs found with
  | zero => cases h
  | succ fuel ih =>
    unfold tokens at h
    split at h
    · cases h
      exact nofun
    · split at h
      · exact ih h
      · split at h
        · obtain ⟨rest, read, same⟩ := Option.bind_eq_some_iff.mp h
          cases same
          refine List.forall_mem_cons.mpr ⟨?_, ih read⟩
          exact fits64_iff.mpr (by omega)
        · split at h
          · obtain ⟨rest, read, same⟩ := Option.bind_eq_some_iff.mp h
            cases same
            exact List.forall_mem_cons.mpr ⟨trivial, ih read⟩
          · obtain ⟨sign, -, h⟩ := Option.bind_eq_some_iff.mp h
            obtain ⟨rest, read, same⟩ := Option.bind_eq_some_iff.mp h
            cases same
            exact List.forall_mem_cons.mpr ⟨trivial, ih read⟩

/-! ## Acts that may fail -/

/-- From a state that is in order an act comes to something good and to a state that is in
order, unless it fails. -/
def Keeps {σ α : Type} (inOrder : σ → Prop) (act : StateT σ Option α) (good : α → Prop) : Prop :=
  ∀ s a s', inOrder s → act.run s = some (a, s') → good a ∧ inOrder s'

namespace Keeps

variable {σ α β : Type} {inOrder : σ → Prop} {act : StateT σ Option α} {good : α → Prop}
  {better : β → Prop}

theorem pure {a : α} (h : good a) : Keeps inOrder (pure a) good := by
  intro s b s' fine ran
  cases ran
  exact ⟨h, fine⟩

theorem failure : Keeps inOrder failure good := by
  intro s a s' _ ran
  cases ran

theorem bind {next : α → StateT σ Option β} (first : Keeps inOrder act good)
    (second : ∀ a, good a → Keeps inOrder (next a) better) :
    Keeps inOrder (act >>= next) better := by
  intro s b s' fine ran
  obtain ⟨⟨a, between⟩, ran', ran⟩ := Option.bind_eq_some_iff.mp ran
  obtain ⟨known, fine⟩ := first s a between fine ran'
  exact second a known between b s' fine ran

theorem get_bind {next : σ → StateT σ Option α}
    (h : ∀ s, inOrder s → Keeps inOrder (next s) good) : Keeps inOrder (get >>= next) good := by
  intro s a s' fine ran
  exact h s fine s a s' fine ran

theorem set_bind {t : σ} {next : PUnit → StateT σ Option α} (fine : inOrder t)
    (h : Keeps inOrder (next ⟨⟩) good) : Keeps inOrder (set t >>= next) good := by
  intro _ a s' _ ran
  exact h t a s' fine ran

theorem modify {change : σ → σ} (h : ∀ s, inOrder s → inOrder (change s)) :
    Keeps inOrder (modify change) fun _ => True := by
  intro s a s' fine ran
  cases ran
  exact ⟨trivial, h s fine⟩

theorem of_guard (p : Prop) [Decidable p] : Keeps inOrder (guard p) fun _ => True := by
  unfold guard
  split
  · exact pure trivial
  · exact failure

theorem ite {c : Prop} [Decidable c] {act' : StateT σ Option α} (yes : Keeps inOrder act good)
    (no : Keeps inOrder act' good) : Keeps inOrder (if c then act else act') good := by
  split
  · exact yes
  · exact no

end Keeps

/-! ## Reading -/

theorem tail_fits {tokens : List Token} (fits : TokensFit tokens) : TokensFit tokens.tail :=
  fun token mem => fits token (List.mem_of_mem_tail mem)

theorem keeps_tail : Keeps TokensFit (modify List.tail) fun _ => True :=
  .modify fun _ => tail_fits

/-- What a reader takes from tokens that fit is a formula that does. -/
abbrev Reads (reader : TokenReader Formula) : Prop := Keeps TokensFit reader Fits

/-- With so much fuel, whatever is read of a formula fits. -/
structure ReadsAt (fuel : Nat) : Prop where
  whole : Reads (whole fuel)
  conditional : Reads (conditional fuel)
  disjunction : Reads (disjunction fuel)
  conjunction : Reads (conjunction fuel)
  operators : ∀ rank first, first.Fits → Reads (operators fuel rank first)
  operand : Reads (operand fuel)

theorem readsAt_zero : ReadsAt 0 where
  whole := .failure
  conditional := .failure
  disjunction := .failure
  conjunction := .failure
  operators _ _ _ := .failure
  operand := .failure

section Step

variable {fuel : Nat} (h : ReadsAt fuel)
include h

theorem reads_whole : Reads (whole (fuel + 1)) := by
  unfold whole
  refine .get_bind fun tokens fits => ?_
  split
  · split
    · exact .set_bind (tail_fits (tail_fits fits)) (h.whole.bind fun _ value => .pure value)
    · exact h.conditional
  · exact h.conditional

theorem reads_conditional : Reads (conditional (fuel + 1)) := by
  unfold conditional
  refine h.disjunction.bind fun condition first => .get_bind fun tokens fits => ?_
  split
  · refine .set_bind (tail_fits fits) (h.whole.bind fun yes second => ?_)
    refine .get_bind fun _ _ => (Keeps.of_guard _).bind fun _ _ => keeps_tail.bind fun _ _ => ?_
    exact h.conditional.bind fun no third => .pure ⟨first, second, third⟩
  · exact .pure first

theorem reads_disjunction : Reads (disjunction (fuel + 1)) := by
  unfold disjunction
  refine h.conjunction.bind fun _ first => .get_bind fun tokens fits => ?_
  split
  · refine .set_bind (tail_fits fits) ?_
    exact h.disjunction.bind fun _ second => .pure ⟨first, second⟩
  · exact .pure first

theorem reads_conjunction : Reads (conjunction (fuel + 1)) := by
  unfold conjunction
  refine h.operand.bind fun _ operand => (h.operators _ _ operand).bind fun _ first => ?_
  refine .get_bind fun tokens fits => ?_
  split
  · refine .set_bind (tail_fits fits) ?_
    exact h.conjunction.bind fun _ second => .pure ⟨first, second⟩
  · exact .pure first

theorem reads_operators (rank : Nat) (first : Formula) (fine : first.Fits) :
    Reads (operators (fuel + 1) rank first) := by
  unfold operators
  refine .get_bind fun tokens fits => ?_
  split
  · split
    · split
      · exact .pure fine
      · refine .set_bind (tail_fits fits) ?_
        refine h.operand.bind fun _ operand => (h.operators _ _ operand).bind fun _ second => ?_
        exact h.operators _ _ ⟨fine, second⟩
    · exact .pure fine
  · exact .pure fine

theorem reads_operand : Reads (operand (fuel + 1)) := by
  unfold operand
  refine .get_bind fun tokens fits => ?_
  split
  all_goals first | exact .failure | skip
  all_goals refine .set_bind (tail_fits fits) ?_
  · exact .pure (List.forall_mem_cons.mp fits).1
  · exact .pure trivial
  · refine h.whole.bind fun _ inner => .get_bind fun _ _ => ?_
    exact (Keeps.of_guard _).bind fun _ _ => keeps_tail.bind fun _ _ => .pure inner
  · exact h.operand.bind fun _ inner => .pure inner
  · exact h.operand
  · exact h.operand.bind fun _ inner => .pure inner
  · exact h.operand.bind fun _ inner => .pure inner

end Step

theorem readsAt (fuel : Nat) : ReadsAt fuel := by
  induction fuel with
  | zero => exact readsAt_zero
  | succ fuel ih =>
    exact ⟨reads_whole ih, reads_conditional ih, reads_disjunction ih, reads_conjunction ih,
      reads_operators ih, reads_operand ih⟩

/-- A text that is read as a formula gives one whose numbers have 64 bits. -/
theorem fits_of_read? {text : String} {f : Formula} (h : read? text = some f) : f.Fits := by
  unfold read? at h
  obtain ⟨found, spelled, h⟩ := Option.bind_eq_some_iff.mp h
  obtain ⟨⟨g, rest⟩, read, h⟩ := Option.bind_eq_some_iff.mp h
  have fine := ((readsAt _).whole _ _ _ (fits_tokens spelled) read).1
  dsimp only at h
  split at h <;> cases h
  exact fine

/-! ## The value of a formula -/

/-- The values that a formula assigned have 64 bits. -/
def AssignedFit (assigned : List (String × Int)) : Prop := ∀ e ∈ assigned, fits64 e.2 = true

theorem fits_integerBy? {split : List Char → Nat × List Char} {text : String} {n : Int}
    (h : integerBy? split text = some n) : fits64 n = true := by
  unfold integerBy? at h
  obtain ⟨⟨value, rest⟩, -, h⟩ := Option.bind_eq_some_iff.mp h
  dsimp only at h
  split at h <;> cases h
  rename_i fine
  exact (Bool.and_eq_true_iff.mp fine).2

theorem fits_lookUp {text : String → String} {assigned : List (String × Int)} {name : String}
    {n : Int} (fits : AssignedFit assigned) (h : lookUp text assigned name = some n) :
    fits64 n = true := by
  unfold lookUp at h
  split at h
  · rename_i value found
    cases h
    obtain ⟨before, after, rfl, -⟩ := List.lookup_eq_some_iff.mp found
    exact fits (name, n) (List.mem_append_right before List.mem_cons_self)
  · split at h
    · cases h
      rfl
    · exact fits_integerBy? h

/-- The value of a formula whose numbers have 64 bits has 64 bits, and so has all that it
assigns. -/
theorem fits_value (text : String → String) {f : Formula} (fine : f.Fits) :
    Keeps AssignedFit (value text f) fun n => fits64 n = true := by
  induction f with
  | number n => exact .pure fine
  | var name =>
    refine .get_bind fun assigned fits => ?_
    split
    · rename_i found
      exact .pure (fits_lookUp fits found)
    · exact .failure
  | negative a ih => exact (ih fine).bind fun _ _ => .pure (fits64_wrap64 _)
  | complement a ih => exact (ih fine).bind fun _ _ => .pure (fits64_wrap64 _)
  | denial a ih => exact (ih fine).bind fun _ _ => .pure (fits64_ite rfl rfl)
  | binary operator a b ih ih' =>
    refine (ih fine.1).bind fun a fits => (ih' fine.2).bind fun b _ => ?_
    split
    · rename_i found
      exact .pure (fits_apply fits found)
    · exact .failure
  | both a b ih ih' =>
    refine (ih fine.1).bind fun _ _ => .ite (.pure rfl) ?_
    exact (ih' fine.2).bind fun _ _ => .pure (fits64_ite rfl rfl)
  | either a b ih ih' =>
    refine (ih fine.1).bind fun _ _ => .ite (.pure rfl) ?_
    exact (ih' fine.2).bind fun _ _ => .pure (fits64_ite rfl rfl)
  | choice condition yes no ih ih' ih'' =>
    exact (ih fine.1).bind fun _ _ => .ite (ih'' fine.2.2) (ih' fine.2.1)
  | assign name operator a ih =>
    have assigned (n : Int) (fits : fits64 n = true) :
        Keeps AssignedFit (do modify ((name, n) :: ·); return n) fun n => fits64 n = true := by
      refine (Keeps.modify fun assigned known => ?_).bind fun _ _ => .pure fits
      exact List.forall_mem_cons.mpr ⟨fits, known⟩
    refine (ih fine).bind fun n fits => ?_
    cases operator with
    | none => exact assigned n fits
    | some operator =>
      refine .get_bind fun known fine => ?_
      dsimp only
      split
      · rename_i found
        obtain ⟨old, there, found⟩ := Option.bind_eq_some_iff.mp found
        exact assigned _ (fits_apply (fits_lookUp fine there) found)
      · exact Keeps.failure.bind fun _ => False.elim

/-- Whatever the text of a sum is, and whatever its variables stand for, it comes to a number of
64 bits or to none. -/
theorem fits_value_of_read? {text : String} {f : Formula} (read : read? text = some f)
    (values : String → String) {n : Int} {assigned : List (String × Int)}
    (h : (value values f).run [] = some (n, assigned)) :
    fits64 n = true ∧ AssignedFit assigned :=
  fits_value values (fits_of_read? read) [] n assigned nofun h

end Formula

end SubordinateIds.Shell
