import SubordinateIds.Configuration.Key
import SubordinateIds.Placement
import SubordinateIds.Text.Decimal
import SubordinateIds.Text.Switch

/-
  Configurations — the settings that steer an assignment

  A configuration has a value for each of the ten keys; it starts from built-in
  defaults. A written pair of a key and a value is read as a setting, which
  changes one key and nothing else. A pair that cannot be read changes nothing.

  Correspondence (program ↔ model):
    `SubidConfig`                               ↔ `Configuration`
    `SubidConfig::default`                      ↔ `default`
    `SubidConfig::domain`                       ↔ `pool`
    `SubidConfig::allocation_mode`              ↔ `policy`
    `SubidConfig::apply`                        ↔ `apply`, by way of `Setting.read` and `set`
    `SubidConfig::value_of`                     ↔ `valueText`
    `SubidConfig::validate_uid`                 ↔ `checkWindow`
    `MAX_RANGE_COUNT`                           ↔ `countLimit`
    `ConfigError::InvalidValue`, `::CountLimit` ↔ `Setting.Fault`
    `ConfigError::UidOutOfRange`                ↔ `OutsideWindow`

  The two other kinds of failure of a loading are in `Loading.Fault`. `ConfigError::Render` is
  left out: writing ten numbers and switches cannot fail.
-/

namespace SubordinateIds

/-- The settings in force. -/
structure Configuration where
  uidMin : UInt32
  uidMax : UInt32
  userPool : Pool
  groupPool : Pool
  skipIfExists : Bool
  allowWrap : Bool
  deriving DecidableEq, Repr

/-- A value for one key. A switch whose word says nothing keeps its position. -/
inductive Setting where
  | number (key : NumberKey) (value : UInt32)
  | switch (key : SwitchKey) (position : Option Bool)
  deriving DecidableEq, Repr

/-- Why a written pair is no setting. -/
inductive Setting.Fault where
  | invalidValue (key : NumberKey) (value : String) (fault : Decimal.Fault)
  | countLimit (key : NumberKey) (value : UInt32)
  deriving DecidableEq, Repr

namespace Setting

/-- The largest block a user may get. -/
def countLimit : UInt32 := 67108864

/-- The wording of a fault. -/
def Fault.message : Fault → String
  | .invalidValue key value fault =>
    s!"invalid value for {key.spelling}: {value} ({fault.message})"
  | .countLimit key value => s!"{key.spelling} {value} exceeds defined limit of {Setting.countLimit}"

/-- Reads a written pair; there is no setting for a key that is not known. -/
def read (key value : String) : Except Fault (Option Setting) :=
  match Key.read? key with
  | none => .ok none
  | some (.switch key) => .ok (some (.switch key (Switch.read? value)))
  | some (.number key) =>
    match Decimal.read value with
    | .error fault => .error (.invalidValue key value fault)
    | .ok n =>
      if key.isCount && n > countLimit then .error (.countLimit key n)
      else .ok (some (.number key n))

end Setting

/-- A user id outside the window of users that get blocks. -/
structure Configuration.OutsideWindow where
  uid : UInt32
  min : UInt32
  max : UInt32
  deriving DecidableEq, Repr

/-- The wording for a user id outside the window. -/
def Configuration.OutsideWindow.message (o : OutsideWindow) : String :=
  s!"uid {o.uid} outside allowed range {o.min}-{o.max}"

namespace Configuration

/-- The pool that is used unless a file says otherwise. -/
def defaultPool : Pool := ⟨100000, 600100000, 65536⟩

/-- The configuration before any file is read. -/
def default : Configuration where
  uidMin := 1000
  uidMax := 60000
  userPool := defaultPool
  groupPool := defaultPool
  skipIfExists := true
  allowWrap := false

/-- The pool of a kind. -/
def pool (c : Configuration) : Kind → Pool
  | .user => c.userPool
  | .group => c.groupPool

/-- The configuration with another pool for a kind. -/
def withPool (c : Configuration) (kind : Kind) (pool : Pool) : Configuration :=
  match kind with
  | .user => { c with userPool := pool }
  | .group => { c with groupPool := pool }

/-- What becomes of blocks that do not fit. -/
def policy (c : Configuration) : Placement.Policy := .ofAllowWrap c.allowWrap

/-- The number at a key. -/
def number (c : Configuration) : NumberKey → UInt32
  | .uidMin => c.uidMin
  | .uidMax => c.uidMax
  | .poolMin kind => (c.pool kind).min
  | .poolMax kind => (c.pool kind).max
  | .poolCount kind => (c.pool kind).count

/-- The switch at a key. -/
def switch (c : Configuration) : SwitchKey → Bool
  | .skipIfExists => c.skipIfExists
  | .allowWrap => c.allowWrap

/-- The configuration with another number at a key. -/
def setNumber (c : Configuration) (key : NumberKey) (value : UInt32) : Configuration :=
  match key with
  | .uidMin => { c with uidMin := value }
  | .uidMax => { c with uidMax := value }
  | .poolMin kind => c.withPool kind { c.pool kind with min := value }
  | .poolMax kind => c.withPool kind { c.pool kind with max := value }
  | .poolCount kind => c.withPool kind { c.pool kind with count := value }

/-- The configuration with a switch in another position. -/
def setSwitch (c : Configuration) (key : SwitchKey) (position : Bool) : Configuration :=
  match key with
  | .skipIfExists => { c with skipIfExists := position }
  | .allowWrap => { c with allowWrap := position }

/-- The configuration after a setting. -/
def set (c : Configuration) : Setting → Configuration
  | .number key value => c.setNumber key value
  | .switch key position => c.setSwitch key (position.getD (c.switch key))

/-- The configuration after settings in order. -/
def setAll (c : Configuration) (settings : List Setting) : Configuration := settings.foldl set c

/-- The configuration after a written pair, if the pair has a key that is known
and a value that can be read. -/
def apply (c : Configuration) (key value : String) :
    Except Setting.Fault (Option Configuration) :=
  (Setting.read key value).map (Option.map c.set)

/-- The configuration after a written pair, and the same one if the pair is
refused. -/
def applied (c : Configuration) (key value : String) : Configuration :=
  match c.apply key value with
  | .ok (some c') => c'
  | _ => c

/-- The value at a key as it is written. -/
def valueText (c : Configuration) : Key → String
  | .number key => toString (c.number key)
  | .switch key => Switch.word (c.switch key)

/-- Refuses user ids outside the window. -/
def checkWindow (c : Configuration) (uid : UInt32) : Except OutsideWindow Unit :=
  if uid < c.uidMin || uid > c.uidMax then .error ⟨uid, c.uidMin, c.uidMax⟩ else .ok ()

end Configuration

end SubordinateIds
