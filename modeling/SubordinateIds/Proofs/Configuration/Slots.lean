import Mathlib.Algebra.Group.Nat.Defs
import SubordinateIds.Proofs.Configuration.Rendering

/-
  Slots — a written pair changes one key or nothing

  A configuration is ten slots with a text in each. `Applies` lists what can come of a
  written pair: its key is not known, its value is no number that the key can hold, or one
  slot holds what the value says and the others hold what they held. The first two leave
  the configuration as it is.

  The texts of a configuration can be written back: each of them is read as what it was
  written for (`read_valueText`), so the ten of them, in any order, turn every configuration
  into the one they came from. That needs the sizes of blocks to be within the limit, and so
  they are after whatever pairs were written to the default (`Reachable`).
-/

namespace SubordinateIds

/-! ## What a pair is read as -/

namespace Setting

variable {key value : String} {fault : Fault} {k : SwitchKey}

theorem read_eq_ok_none_iff : read key value = .ok none ↔ ∀ k : Key, k.spelling ≠ key := by
  unfold read
  constructor
  · intro h k spelled
    rw [Key.read?_eq_some_iff.mpr spelled] at h
    cases k with
    | switch k => cases h
    | number k =>
      dsimp only at h
      split at h
      · cases h
      · split at h <;> cases h
  · intro strange
    cases found : Key.read? key with
    | none => rfl
    | some k => exact absurd (Key.read?_eq_some_iff.mp found) (strange k)

theorem read_unmoved_iff : read key value = .ok (some (.switch k none)) ↔
    k.spelling = key ∧ ∀ on, ¬Switch.Says value on := by
  have silent : Switch.read? value = none ↔ ∀ on, ¬Switch.Says value on := by
    simp only [Option.eq_none_iff_forall_not_mem, Option.mem_def, Switch.read?_eq_some_iff]
  rw [← silent]
  unfold read
  constructor
  · intro h
    split at h
    · cases h
    · rename_i k' found
      injection h with h
      injection h with h
      injection h with same said
      subst same
      exact ⟨Key.read?_eq_some_iff.mp found, said⟩
    · split at h
      · cases h
      · split at h <;> cases h
  · intro h
    obtain ⟨spelled, said⟩ := h
    have found : Key.read? key = some (.switch k) := Key.read?_eq_some_iff.mpr spelled
    simp only [found, said]

theorem exists_of_read_error (refused : read key value = .error fault) :
    ∃ k : NumberKey, k.spelling = key ∧ ∀ n, ¬k.Reads value n := by
  have named : ∃ k : NumberKey, k.spelling = key := by
    unfold read at refused
    split at refused
    · cases refused
    · cases refused
    · rename_i k found
      exact ⟨k, Key.read?_eq_some_iff.mp found⟩
  obtain ⟨k, spelled⟩ := named
  refine ⟨k, spelled, ?_⟩
  intro n reads
  rw [read_number_iff.mpr ⟨spelled, reads⟩] at refused
  cases refused

end Setting

/-! ## One pair -/

/-- What stands at a key after a value was written there, where `old` stood before: the
decimal text of the number that the value stands for, or the word for the position that the
value is a word for. A value that is a word for neither position leaves the switch where it
is. -/
inductive Key.Becomes : (key : Key) → (value old new : String) → Prop where
  | number {key : NumberKey} {value old : String} {n : UInt32} (reads : key.Reads value n) :
      Becomes (.number key) value old (Nat.repr n.toNat)
  | switch {key : SwitchKey} {value old : String} {on : Bool} (word : Switch.Says value on) :
      Becomes (.switch key) value old (if on then "yes" else "no")
  | unmoved {key : SwitchKey} {value old : String} (silent : ∀ on, ¬Switch.Says value on) :
      Becomes (.switch key) value old old

namespace Configuration

/-- What comes of a written pair, and the configuration after it. -/
inductive Applies (c : Configuration) (key value : String) :
    Except Setting.Fault (Option Configuration) → Configuration → Prop where
  | unknown (strange : ∀ k : Key, k.spelling ≠ key) : Applies c key value (.ok none) c
  | refused {k : NumberKey} {fault : Setting.Fault} (spelled : k.spelling = key)
      (unread : ∀ n, ¬k.Reads value n) : Applies c key value (.error fault) c
  | written {k : Key} {d : Configuration} (spelled : k.spelling = key)
      (becomes : k.Becomes value (c.valueText k) (d.valueText k))
      (others : ∀ l, l ≠ k → d.valueText l = c.valueText l) :
      Applies c key value (.ok (some d)) d

variable {c d : Configuration} {key value : String}

theorem valueText_number (c : Configuration) (key : NumberKey) :
    c.valueText (.number key) = Nat.repr (c.number key).toNat := rfl

theorem ext_valueText (same : ∀ key, c.valueText key = d.valueText key) : c = d := by
  apply eq_of_written .text
  intro key
  rw [← valueText_eq, ← valueText_eq, same]

theorem valueText_set_number (k : NumberKey) (n : UInt32) (l : Key) :
    (c.set (.number k n)).valueText l =
      if l = .number k then Nat.repr n.toNat else c.valueText l := by
  cases l with
  | number l =>
    simp only [valueText_number, number_set, Key.number.injEq, eq_comm (a := l)]
    split <;> rfl
  | switch l => simp only [valueText, switch_set, reduceCtorEq, if_false]

theorem valueText_set_switch (k : SwitchKey) (position : Option Bool) (l : Key) :
    (c.set (.switch k position)).valueText l =
      if l = .switch k then Switch.word (position.getD (c.switch k)) else c.valueText l := by
  cases l with
  | number l => simp only [valueText, number_set, reduceCtorEq, if_false]
  | switch l =>
    simp only [valueText, switch_set, Key.switch.injEq, eq_comm (a := l)]
    by_cases same : k = l
    · subst same
      simp only [if_true]
    · simp only [if_neg same]

theorem applies (c : Configuration) (key value : String) :
    c.Applies key value (c.apply key value) (c.applied key value) := by
  unfold applied apply
  cases read : Setting.read key value with
  | error fault =>
    obtain ⟨k, spelled, unread⟩ := Setting.exists_of_read_error read
    exact .refused spelled unread
  | ok setting? =>
    rcases setting? with _ | ⟨k, n⟩ | ⟨k, _ | on⟩
    · exact .unknown (Setting.read_eq_ok_none_iff.mp read)
    · obtain ⟨spelled, reads⟩ := Setting.read_number_iff.mp read
      refine .written (k := .number k) spelled ?_ ?_
      · rw [valueText_set_number, if_pos rfl]
        exact .number reads
      · intro l other
        rw [valueText_set_number, if_neg other]
    · obtain ⟨spelled, silent⟩ := Setting.read_unmoved_iff.mp read
      refine .written (k := .switch k) spelled ?_ ?_
      · rw [valueText_set_switch, if_pos rfl]
        exact .unmoved silent
      · intro l other
        rw [valueText_set_switch, if_neg other]
    · obtain ⟨spelled, word⟩ := Setting.read_switch_iff.mp read
      refine .written (k := .switch k) spelled ?_ ?_
      · rw [valueText_set_switch, if_pos rfl]
        exact .switch word
      · intro l other
        rw [valueText_set_switch, if_neg other]

/-! ## Pairs in a row -/

/-- The configuration comes of the default by writing pairs. -/
inductive Reachable : Configuration → Prop where
  | default : Reachable .default
  | applied {c : Configuration} (before : Reachable c) (key value : String) :
      Reachable (c.applied key value)

/-- The pairs are written one after the other, and none of them is refused. -/
inductive Writes : Configuration → List (String × String) → Configuration → Prop where
  | nil {c : Configuration} : Writes c [] c
  | cons {c d e : Configuration} {key value : String} {pairs : List (String × String)}
      (first : c.apply key value = .ok (some d)) (rest : Writes d pairs e) :
      Writes c ((key, value) :: pairs) e

theorem applied_cases (c : Configuration) (key value : String) :
    c.applied key value = c ∨ ∃ setting, Setting.read key value = .ok (some setting) ∧
      c.applied key value = c.set setting := by
  unfold applied apply
  rcases Setting.read key value with fault | _ | setting
  · exact .inl rfl
  · exact .inl rfl
  · exact .inr ⟨setting, rfl, rfl⟩

theorem Reachable.count_le (h : c.Reachable) (kind : Kind) :
    (c.pool kind).count.toNat ≤ 2 ^ 26 := by
  induction h with
  | default => cases kind <;> decide
  | @applied c before key value ih =>
    obtain same | ⟨setting, read, same⟩ := c.applied_cases key value
    · rw [same]
      exact ih
    · rw [same]
      show ((c.set setting).number (.poolCount kind)).toNat ≤ 2 ^ 26
      rw [number_set]
      cases setting with
      | switch k position => exact ih
      | number k n =>
        dsimp only
        split
        · rename_i count
          obtain ⟨-, -, -, -, small⟩ := Setting.read_number_iff.mp read
          rw [count] at small
          exact small rfl
        · exact ih

/-- The setting that puts at a key what stands there. -/
def settingAt (c : Configuration) : Key → Setting
  | .number key => .number key (c.number key)
  | .switch key => .switch key (some (c.switch key))

theorem read_valueText (small : ∀ kind, (c.pool kind).count.toNat ≤ 2 ^ 26) (key : Key) :
    Setting.read key.spelling (c.valueText key) = .ok (some (c.settingAt key)) := by
  cases key with
  | number key =>
    obtain ⟨filled, digits, sum⟩ := Decimal.digits_toString (c.number key)
    refine Setting.read_number_iff.mpr ⟨rfl, filled, digits, sum, ?_⟩
    intro count
    cases key with
    | poolCount kind => exact small kind
    | _ => cases count
  | switch key =>
    refine Setting.read_switch_iff.mpr ⟨rfl, ?_⟩
    show Switch.Says (Switch.word (c.switch key)) (c.switch key)
    apply Switch.read?_eq_some_iff.mp
    cases c.switch key <;> rfl

theorem writes_valueTexts (small : ∀ kind, (c.pool kind).count.toNat ≤ 2 ^ 26)
    (keys : List Key) (d : Configuration) :
    Writes d (keys.map fun key => (key.spelling, c.valueText key))
      (d.setAll (keys.map c.settingAt)) := by
  induction keys generalizing d with
  | nil => exact .nil
  | cons key keys ih =>
    refine .cons ?_ (ih (d.set (c.settingAt key)))
    rw [apply, read_valueText small]
    rfl

theorem valueText_set_settingAt (d : Configuration) (key l : Key) :
    (d.set (c.settingAt key)).valueText l = if l = key then c.valueText l else d.valueText l := by
  cases key with
  | number key =>
    rw [settingAt, valueText_set_number]
    by_cases same : l = .number key
    · simp only [if_pos same]
      rw [same]
      rfl
    · simp only [if_neg same]
  | switch key =>
    rw [settingAt, valueText_set_switch]
    by_cases same : l = .switch key
    · simp only [if_pos same]
      rw [same]
      rfl
    · simp only [if_neg same]

theorem valueText_setAll_settingAt (keys : List Key) (d : Configuration) (l : Key) :
    (d.setAll (keys.map c.settingAt)).valueText l =
      if l ∈ keys then c.valueText l else d.valueText l := by
  induction keys generalizing d with
  | nil => simp [setAll]
  | cons key keys ih =>
    have first : d.setAll ((key :: keys).map c.settingAt) =
      (d.set (c.settingAt key)).setAll (keys.map c.settingAt) := rfl
    rw [first, ih, valueText_set_settingAt]
    -- a key that is set again later is set to the same
    by_cases later : l ∈ keys <;> simp [later]

/-- What was at the keys before does not matter once all of them are set. -/
theorem setAll_settingAt {keys : List Key} (full : ∀ key, key ∈ keys) (d : Configuration) :
    d.setAll (keys.map c.settingAt) = c := by
  apply ext_valueText
  intro key
  rw [valueText_setAll_settingAt, if_pos (full key)]

/-- Of a configuration that comes of the default by writing pairs: a pair that is written to
it changes the text at one key to what the value says, or changes nothing; its blocks stay
within the limit; and its ten texts, written in any order to whatever configuration, are all
taken and make that configuration into it. -/
theorem Reachable.slots_independent (h : c.Reachable) :
    (∀ key value, c.Applies key value (c.apply key value) (c.applied key value)) ∧
      (∀ kind, (c.pool kind).count.toNat ≤ 2 ^ 26) ∧
      ∀ (d : Configuration) (order : List Key), order.Perm Key.all →
        Writes d (order.map fun key => (key.spelling, c.valueText key)) c := by
  refine ⟨c.applies, h.count_le, ?_⟩
  intro d order perm
  have full : ∀ key, key ∈ order := fun key => perm.mem_iff.mpr key.mem_all
  have written := writes_valueTexts h.count_le order d
  rwa [setAll_settingAt full] at written

/-- The largest size of blocks is taken and one more is not. The configuration that comes of
it is restored from the last key to the first, over one whose blocks are above the limit. -/
theorem slots_independent_backwards :
    let c := (Configuration.default.applied "SUB_GID_COUNT" "0067108864").applied
      "ALLOW_SUBID_WRAP" "TRUE"
    let pairs := [("ALLOW_SUBID_WRAP", "yes"), ("SKIP_IF_EXISTS", "yes"),
      ("SUB_GID_COUNT", "67108864"), ("SUB_GID_MAX", "600100000"), ("SUB_GID_MIN", "100000"),
      ("SUB_UID_COUNT", "65536"), ("SUB_UID_MAX", "600100000"), ("SUB_UID_MIN", "100000"),
      ("UID_MAX", "60000"), ("UID_MIN", "1000")]
    let refusal := Setting.Fault.countLimit (.poolCount .group) 67108865
    c.Reachable ∧ c.apply "SUB_GID_COUNT" "67108865" = .error refusal ∧
      c.Applies "SUB_GID_COUNT" "67108865" (.error refusal) c ∧
      Key.all.reverse.Perm Key.all ∧
      Writes ⟨7, 3, ⟨9, 1, 4294967295⟩, ⟨0, 0, 0⟩, false, false⟩ pairs c := by
  intro c pairs refusal
  have reachable : c.Reachable := (Reachable.default.applied _ _).applied _ _
  have refused : c.apply "SUB_GID_COUNT" "67108865" = .error refusal := by decide +kernel
  have left : c.applied "SUB_GID_COUNT" "67108865" = c := by decide +kernel
  have texts : (Key.all.reverse.map fun key => (key.spelling, c.valueText key)) = pairs := by
    decide +kernel
  have backwards : Key.all.reverse.Perm Key.all := List.reverse_perm _
  obtain ⟨applies, -, restores⟩ := reachable.slots_independent
  have shown := applies "SUB_GID_COUNT" "67108865"
  rw [refused, left] at shown
  refine ⟨reachable, refused, shown, backwards, ?_⟩
  rw [← texts]
  exact restores _ _ backwards

end Configuration

end SubordinateIds
