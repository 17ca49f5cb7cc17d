import SubordinateIds.Proofs.Answers

/-
  Endings — how a program ends each time it is started

  The ends of a program stand in a queue. A start takes the first of them and leaves the
  queues of all other programs as they are (`run_fst`, `queue_run`); the last end of a queue
  stays in it. Programs are told apart by the components of their paths.

  An obliging program starts and ends well, whatever else is started: each end in its
  queue is the same one, so it does not matter how often it was taken.
-/

namespace SubordinateIds.Machine

variable {m : Machine} {p q : Path}

/-- The ends that are lined up for a program. -/
def queue (m : Machine) (p : Path) : List Exit := (m.exits.get? p).getD []

/-- A queue of which the first end was taken. -/
def advance : List Exit → List Exit
  | [] => []
  | [last] => [last]
  | _ :: next :: rest => next :: rest

theorem mem_of_mem_advance {exits : List Exit} {e : Exit} (mem : e ∈ advance exits) :
    e ∈ exits := by
  cases exits with
  | nil => cases mem
  | cons first rest =>
    cases rest with
    | nil => exact mem
    | cons next rest => exact List.mem_cons_of_mem _ mem

theorem queue_congr (m : Machine) (same : p.components = q.components) : m.queue p = m.queue q := by
  rw [queue, queue, m.exits.get?_congr same]

theorem run_fst (m : Machine) (p : Path) :
    (m.run p).1 = match m.startErrors.get? p with
      | some error => .error error
      | none => .ok ((m.queue p).headD (.exited 0)) := by
  unfold run queue
  cases m.startErrors.get? p with
  | some error => rfl
  | none =>
    -- the queue is missing, empty, at its last end or longer
    rcases m.exits.get? p with _ | (_ | ⟨exit, _ | ⟨next, rest⟩⟩) <;> rfl

/-- A start takes one end from the queue of its program, and nothing from any other. -/
theorem queue_run (m : Machine) (p q : Path) :
    (m.run p).2.queue q =
      if m.startErrors.get? p = none ∧ q.components = p.components then advance (m.queue p)
      else m.queue q := by
  by_cases same : q.components = p.components
  · rw [queue_congr _ same, queue_congr m same]
    unfold run queue
    split
    · rename_i error fails
      simp [fails]
    · rename_i starts
      rw [if_pos ⟨starts, same⟩]
      split <;> rename_i lined
      · rw [lined]; rfl
      · rw [lined]; rfl
      · rw [lined]; rfl
      · simp [PathMap.get?_insert, lined, advance]
  · rw [if_neg fun both => same both.2]
    unfold run queue
    split
    · rfl
    · split
      · rfl
      · rfl
      · rfl
      · simp only [PathMap.get?_insert, if_neg same]

/-- The program starts, and ends well each time. -/
structure Obliging (m : Machine) (p : Path) : Prop where
  starts : m.startErrors.get? p = none
  ends : ∀ e ∈ m.queue p, e = .exited 0

namespace Obliging

theorem congr (h : m.Obliging p) (same : p.components = q.components) : m.Obliging q where
  starts := (m.startErrors.get?_congr same).symm.trans h.starts
  ends := by rw [← m.queue_congr same]; exact h.ends

theorem run_fst (h : m.Obliging p) : (m.run p).1 = .ok (.exited 0) := by
  rw [Machine.run_fst, h.starts]
  cases queue : m.queue p with
  | nil => rfl
  | cons e rest =>
    have first := h.ends e (by rw [queue]; exact List.mem_cons_self)
    simp only [List.headD_cons, first]

theorem run (h : m.Obliging p) (q : Path) : (m.run q).2.Obliging p := by
  obtain ⟨exits, ran⟩ := m.run_frame q
  refine ⟨by rw [ran]; exact h.starts, ?_⟩
  intro e mem
  rw [queue_run] at mem
  split at mem
  · rename_i taken
    rw [← m.queue_congr taken.2] at mem
    exact h.ends e (mem_of_mem_advance mem)
  · exact h.ends e mem

end Obliging

end SubordinateIds.Machine
