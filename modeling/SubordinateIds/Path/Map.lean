import SubordinateIds.Path.Basic

/-
  Path maps — things kept by path

  Two spellings of one place are one key: keys are compared by their components.
  A later entry for a place hides the earlier one.
-/

namespace SubordinateIds

/-- Things kept by the components of a path, the latest first. -/
structure PathMap (α : Type) where
  entries : List (List Path.Component × α)

namespace PathMap

variable {α : Type}

/-- The map that holds nothing. -/
def empty : PathMap α := ⟨[]⟩

instance : Inhabited (PathMap α) := ⟨empty⟩

/-- What is kept for a path. -/
def get? (m : PathMap α) (p : Path) : Option α := m.entries.lookup p.components

/-- The map with a thing kept for a path. -/
def insert (m : PathMap α) (p : Path) (a : α) : PathMap α := ⟨(p.components, a) :: m.entries⟩

/-- The map of pairs in order, the later ones hiding the earlier ones. -/
def ofList (pairs : List (Path × α)) : PathMap α :=
  pairs.foldl (fun m e => m.insert e.1 e.2) empty

@[simp] theorem get?_empty (p : Path) : (empty : PathMap α).get? p = none := rfl

theorem get?_insert (m : PathMap α) (p q : Path) (a : α) :
    (m.insert p a).get? q = if q.components = p.components then some a else m.get? q := by
  by_cases h : q.components = p.components
  · simp [get?, insert, h]
  · have hb : (q.components == p.components) = false := by simpa using h
    simp [get?, insert, List.lookup_cons, h, hb]

theorem get?_congr (m : PathMap α) {p q : Path} (h : p.components = q.components) :
    m.get? p = m.get? q := by
  simp [get?, h]

end PathMap

end SubordinateIds
