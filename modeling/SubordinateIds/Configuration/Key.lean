import SubordinateIds.Kind

/-
  Keys — the ten settings that a configuration has

  A key holds either a number or a switch. Its spelling in files is exact.

  Correspondence (program ↔ model):
    `ConfigKey`           ↔ `Key`, as `NumberKey` and `SwitchKey`
    `ConfigKey::ALL`      ↔ `all`
    `ConfigKey::as_str`   ↔ `spelling`
    `ConfigKey::parse`    ↔ `read?`
    `ConfigKey::is_count` ↔ `isCount`
-/

namespace SubordinateIds

/-- The keys that hold a number. -/
inductive NumberKey where
  | uidMin
  | uidMax
  | poolMin (kind : Kind)
  | poolMax (kind : Kind)
  | poolCount (kind : Kind)
  deriving DecidableEq, Repr

/-- The keys that hold a switch. -/
inductive SwitchKey where
  | skipIfExists
  | allowWrap
  deriving DecidableEq, Repr

/-- A key of the configuration. -/
inductive Key where
  | number (key : NumberKey)
  | switch (key : SwitchKey)
  deriving DecidableEq, Repr

/-- The spelling of a key that holds a number. -/
def NumberKey.spelling : NumberKey → String
  | .uidMin => "UID_MIN"
  | .uidMax => "UID_MAX"
  | .poolMin .user => "SUB_UID_MIN"
  | .poolMax .user => "SUB_UID_MAX"
  | .poolCount .user => "SUB_UID_COUNT"
  | .poolMin .group => "SUB_GID_MIN"
  | .poolMax .group => "SUB_GID_MAX"
  | .poolCount .group => "SUB_GID_COUNT"

/-- Whether the key holds the size of a user's block. -/
def NumberKey.isCount : NumberKey → Bool
  | .poolCount _ => true
  | _ => false

/-- The spelling of a key that holds a switch. -/
def SwitchKey.spelling : SwitchKey → String
  | .skipIfExists => "SKIP_IF_EXISTS"
  | .allowWrap => "ALLOW_SUBID_WRAP"

namespace Key

/-- The spelling of a key. -/
def spelling : Key → String
  | .number key => key.spelling
  | .switch key => key.spelling

/-- Whether the key holds the size of a user's block. -/
def isCount : Key → Bool
  | .number key => key.isCount
  | .switch _ => false

/-- Every key, in the order in which configurations are shown. -/
def all : List Key := [
  .number .uidMin, .number .uidMax,
  .number (.poolMin .user), .number (.poolMax .user), .number (.poolCount .user),
  .number (.poolMin .group), .number (.poolMax .group), .number (.poolCount .group),
  .switch .skipIfExists, .switch .allowWrap]

/-- The key with a spelling. -/
def read? (spelled : String) : Option Key := all.find? (·.spelling == spelled)

theorem mem_all (k : Key) : k ∈ all := by
  rcases k with (_ | _ | k | k | k) | (_ | _) <;> first | decide | (cases k <;> decide)

/-- What is said of every key can be tried on all of them. -/
instance decidableForall (P : Key → Prop) [DecidablePred P] : Decidable (∀ k, P k) :=
  decidable_of_decidable_of_iff (p := ∀ k ∈ all, P k) ⟨fun h k => h k (mem_all k), fun h k _ => h k⟩

theorem read?_spelling (k : Key) : read? k.spelling = some k := by
  revert k
  decide

theorem read?_eq_some_iff {spelled : String} {k : Key} :
    read? spelled = some k ↔ k.spelling = spelled := by
  constructor
  · intro h
    have found := List.find?_some h
    exact beq_iff_eq.mp found
  · intro h
    rw [← h]
    exact read?_spelling k

end Key

end SubordinateIds
