/-
  Kinds — subordinate user ids and subordinate group ids

  The two kinds are served one after the other, users first, each from a pool
  of its own and through flags of its own.

  Correspondence (program ↔ model):
    `SubidKind`              ↔ `Kind`
    `SubidKind::ALL`         ↔ `all`
    `SubidKind::label`       ↔ `label`
    `SubidKind::query_flag`  ↔ `queryFlag?`
    `SubidKind::assign_flag` ↔ `assignFlag`
-/

namespace SubordinateIds

/-- What kind of subordinate id is meant. -/
inductive Kind where
  | user
  | group
  deriving DecidableEq, Repr

namespace Kind

/-- Both kinds, in the order in which they are served. -/
def all : List Kind := [.user, .group]

/-- The word for the kind in messages. -/
def label : Kind → String
  | .user => "subuid"
  | .group => "subgid"

instance : ToString Kind := ⟨label⟩

/-- The flag that turns the query tool to this kind, if it needs one. -/
def queryFlag? : Kind → Option String
  | .user => none
  | .group => some "-g"

/-- The flag that makes the account tool add a block of this kind. -/
def assignFlag : Kind → String
  | .user => "--add-subuids"
  | .group => "--add-subgids"

end Kind

end SubordinateIds
