import SubordinateIds.Shell.Signal

/-
  Signals — which of them may be asked for

  Every signal is known by its name, and no text stands for a number that is none
  (`number?_name`, `number?_le`). So whatever the words after `kill` are, a request to send a
  signal is about one that there is, and it has somebody to send it to (`fine_of_read?`).
-/

namespace SubordinateIds.Shell

namespace Signal

theorem number?_name : ∀ n ∈ List.range (last + 1), number? (name n) = some n := by
  decide +kernel

theorem number?_le {text : String} {n : Nat} (h : number? text = some n) : n ≤ last := by
  have known : ∀ e ∈ names, e.2 ≤ last := by decide
  unfold number? at h
  dsimp only at h
  split at h
  · split at h <;> cases h
    assumption
  · obtain ⟨before, rest, spelled, -⟩ := List.lookup_eq_some_iff.mp h
    exact known _ (spelled ▸ List.mem_append_right before List.mem_cons_self)

end Signal

namespace KillRequest

/-- A signal that is to be sent is one that there is, and it is sent to somebody. -/
def Fine : KillRequest → Prop
  | .send signal targets => signal ≤ Signal.last ∧ targets ≠ []
  | _ => True

/-- A signal that was read, if one was, is one that there is. -/
def Known (signal : Option Nat) : Prop := ∀ n ∈ signal, n ≤ Signal.last

variable {shows : Bool} {signal : Option Nat} {words : List String}

theorem known_none : Known none := by
  intro n mem
  cases mem

theorem known_number? {text : String} {n : Nat} (h : Signal.number? text = some n) :
    Known (some n) := by
  intro m mem
  cases mem
  exact Signal.number?_le h

theorem fine_of (known : Known signal) : ∀ request ∈ of shows signal words, request.Fine := by
  intro request made
  unfold of at made
  split at made
  · cases made
    trivial
  · split at made <;> cases made
    trivial
  · cases made
  · rename_i filled
    cases made
    refine ⟨?_, filled⟩
    cases signal with
    | none => decide
    | some n => exact known n rfl

/-- The options are read in words and in letters of words, so both are followed at once. -/
theorem fine_options_letters :
    (∀ shows signal words, Known signal →
      ∀ request ∈ options? shows signal words, request.Fine) ∧
    ∀ shows signal rest cs, Known signal →
      ∀ request ∈ letters? shows signal rest cs, request.Fine := by
  have named {text : String} {shows : Bool} {rest : List String}
      (ih : ∀ n, Known (some n) → ∀ request ∈ options? shows (some n) rest, request.Fine) :
      ∀ request ∈ (do options? shows (some (← Signal.number? text)) rest), request.Fine := by
    intro request made
    obtain ⟨n, read, made⟩ := Option.bind_eq_some_iff.mp made
    exact ih n (known_number? read) request made
  apply options?.mutual_induct
  · intro shows signal known
    rw [options?]
    exact fine_of known
  -- Two dashes end the options.
  · intro shows signal word rest dashes known
    rw [options?, dashes]
    exact fine_of known
  · intro shows signal word rest c cs other spelled ih known
    rw [options?, spelled]
    split
    · exact fine_of known
    · rename_i same
      cases same
      exact ih known
    · exact fine_of known
  -- A word without a dash is the first target.
  · intro shows signal word rest _ plain known
    rw [options?]
    split
    · exact fine_of known
    · rename_i spelled
      exact absurd spelled (plain _ _)
    · exact fine_of known
  · intro shows signal rest ih known
    rw [letters?]
    exact ih known
  · intro shows signal rest cs ih known
    rw [letters?]
    exact ih known
  -- The signal is in the next word, or in the rest of this one.
  · intro shows signal known request made
    rw [letters?] at made
    cases made
  · intro shows signal word rest ih known
    rw [letters?]
    exact named ih
  · intro shows signal rest cs more ih known
    rw [letters?]
    exact named ih
    exact more
  · intro shows signal rest cs _ _ _ _ known request made
    rw [letters?] at made
    cases made
    all_goals assumption

theorem fine_of_read? {request : KillRequest} (h : read? words = some request) :
    request.Fine := by
  unfold read? at h
  split at h
  · cases h
  · split at h
    · split at h
      · rename_i found
        exact fine_of (known_number? found) request h
      · exact fine_options_letters.1 _ _ _ known_none request h
    · exact fine_of known_none request h

end KillRequest

end SubordinateIds.Shell
