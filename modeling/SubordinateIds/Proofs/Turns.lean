import Mathlib.Data.List.Induction
import SubordinateIds.Proofs.Endings

/-
  Turns — which end a program comes to, each time it is started

  Commands are started one after the other, for any programs in any order. The `k`-th start of
  a program comes to the `k`-th of the ends that were lined up for it, and once these are used
  up to the last of them. So the answer to a command depends on its own program only, and on how
  often that was started before (`turn`).

  The reason is an equation for a queue after any commands: as many ends are gone from its
  front as its program was started, except for the last one, which stays (`queue_after`).
  Starts of other programs do not touch it, so they can be left out (`filter_answers`).
-/

namespace SubordinateIds

/-- Whether the command starts the program at the path, however the two are spelled. -/
def Command.starts (p : Path) (c : Command) : Bool := decide (c.program.components = p.components)

namespace Machine

variable {m m' : Machine} {p : Path} {c : Command}

/-- What the program comes to at its `k`-th start. If it starts, it comes to the `k`-th of the
ends lined up for it, or to the last one if there are fewer; it ends well if there are none. -/
def turn (m : Machine) (p : Path) (k : Nat) : Except SystemError Exit :=
  match m.startErrors.get? p with
  | some error => .error error
  | none => .ok ((m.queue p).getD (min k (m.queue p).length - 1) (.exited 0))

/-! ## Queues -/

theorem advance_eq_drop (exits : List Exit) :
    advance exits = exits.drop (min 1 (exits.length - 1)) := by
  rcases exits with _ | ⟨first, _ | ⟨next, rest⟩⟩
  · rfl
  · rfl
  · simp [advance]

theorem advance_drop (exits : List Exit) (k : Nat) :
    advance (exits.drop (min k (exits.length - 1))) =
      exits.drop (min (k + 1) (exits.length - 1)) := by
  rw [advance_eq_drop, List.drop_drop, List.length_drop]
  congr 1
  omega

theorem startErrors_run (m : Machine) (p : Path) : (m.run p).2.startErrors = m.startErrors := by
  obtain ⟨exits, ran⟩ := m.run_frame p
  rw [ran]

theorem startErrors_after (m : Machine) (cs : List Command) :
    (m.after cs).startErrors = m.startErrors := by
  obtain ⟨exits, frame⟩ := m.after_frame cs
  rw [frame]

theorem after_concat (m : Machine) (cs : List Command) (c : Command) :
    m.after (cs ++ [c]) = ((m.after cs).run c.program).2 := by
  rw [after_append]
  rfl

/-- A program that starts has used up one end for each of its starts, but never the last; a
program that does not start uses up none. -/
theorem queue_after (m : Machine) (cs : List Command) (p : Path) :
    (m.after cs).queue p = match m.startErrors.get? p with
      | some _ => m.queue p
      | none => (m.queue p).drop (min (cs.countP (Command.starts p)) ((m.queue p).length - 1)) := by
  induction cs using List.reverseRecOn with
  | nil => cases m.startErrors.get? p <;> simp [after]
  | append_singleton cs c ih =>
    rw [after_concat, queue_run, startErrors_after, List.countP_append, List.countP_singleton]
    by_cases same : p.components = c.program.components
    · -- the two spellings stand for one program, which starts or not
      have starts : c.starts p = true := by simp [Command.starts, same]
      rw [← queue_congr _ same, ← m.startErrors.get?_congr same, ih, if_pos starts]
      cases m.startErrors.get? p with
      | some error => simp
      | none => simp only [true_and, same, if_true, advance_drop]
    · have other : c.starts p = false := by simpa [Command.starts] using Ne.symm same
      rw [if_neg fun both => same both.2, ih, other]
      simp

/-! ## Answers -/

theorem run_after (m : Machine) (cs : List Command) (p : Path) :
    ((m.after cs).run p).1 = m.turn p (cs.countP (Command.starts p) + 1) := by
  rw [run_fst, startErrors_after, queue_after, turn]
  cases m.startErrors.get? p with
  | some error => rfl
  | none =>
    have place : min (cs.countP (Command.starts p)) ((m.queue p).length - 1) =
        min (cs.countP (Command.starts p) + 1) (m.queue p).length - 1 := by omega
    simp only [List.headD_eq_head?_getD, List.head?_drop, List.getD_eq_getElem?_getD, place]

theorem length_answers (m : Machine) (cs : List Command) : (m.answers cs).length = cs.length := by
  rw [← List.length_map Answer.command, map_command_answers]

/-- Each command is answered by the turn that its program has come to: one more than it was
started before. -/
theorem answers_eq_mapIdx (m : Machine) (cs : List Command) :
    m.answers cs = cs.mapIdx fun i c =>
      ⟨c, m.turn c.program ((cs.take i).countP (Command.starts c.program) + 1)⟩ := by
  refine List.ext_getElem (by simp [length_answers]) fun i _ there => ?_
  rw [List.length_mapIdx] at there
  -- the command stands between those before it and those after it
  have cut : cs.take i ++ cs[i] :: cs.drop (i + 1) = cs := by
    rw [← List.drop_eq_getElem_cons, List.take_append_drop]
  have answered := m.answers_append (cs.take i) (cs[i] :: cs.drop (i + 1))
  rw [cut] at answered
  have front : (m.answers (cs.take i)).length = i := by
    rw [length_answers, List.length_take, Nat.min_eq_left (Nat.le_of_lt there)]
  simp only [answered, List.getElem_append_right (Nat.le_of_eq front), front, Nat.sub_self,
    answers, List.getElem_cons_zero, run_after, List.getElem_mapIdx]

/-- The machines do the same with one program: whether it starts, and the ends lined up. -/
structure AgreeOn (p : Path) (m m' : Machine) : Prop where
  starts : m'.startErrors.get? p = m.startErrors.get? p
  queue : m'.queue p = m.queue p

namespace AgreeOn

theorem refl (p : Path) (m : Machine) : AgreeOn p m m := ⟨rfl, rfl⟩

theorem congr (h : AgreeOn p m m') {q : Path} (same : p.components = q.components) :
    AgreeOn q m m' where
  starts := by rw [← m'.startErrors.get?_congr same, ← m.startErrors.get?_congr same, h.starts]
  queue := by rw [← m'.queue_congr same, ← m.queue_congr same, h.queue]

theorem run (h : AgreeOn p m m') :
    (m'.run p).1 = (m.run p).1 ∧ AgreeOn p (m.run p).2 (m'.run p).2 := by
  refine ⟨by rw [run_fst, run_fst, h.starts, h.queue], ?_, ?_⟩
  · rw [startErrors_run, startErrors_run, h.starts]
  · rw [queue_run, queue_run, h.starts, h.queue]

theorem run_left (h : AgreeOn p m m') {q : Path} (other : p.components ≠ q.components) :
    AgreeOn p (m.run q).2 m' where
  starts := by rw [startErrors_run, h.starts]
  queue := by rw [queue_run, if_neg fun both => other both.2, h.queue]

end AgreeOn

theorem filter_answers (agree : AgreeOn p m m') (cs : List Command) :
    (m.answers cs).filter (·.command.starts p) = m'.answers (cs.filter (Command.starts p)) := by
  induction cs generalizing m m' with
  | nil => rfl
  | cons c cs ih =>
    rw [answers, List.filter_cons, List.filter_cons]
    by_cases same : c.program.components = p.components
    · have starts : c.starts p = true := by simp [Command.starts, same]
      obtain ⟨ending, agree⟩ := (agree.congr same.symm).run
      rw [if_pos starts, if_pos starts, answers, ending, ih (agree.congr same)]
    · have other : c.starts p = false := by simp [Command.starts, same]
      rw [other, if_neg Bool.false_ne_true, if_neg Bool.false_ne_true,
        ih (agree.run_left (Ne.symm same))]

/-! ## Lining up -/

theorem getD_lineUp (ends : List (Path × Exit)) (queues : PathMap (List Exit)) (p : Path) :
    let step := fun (queues : PathMap (List Exit)) (e : Path × Exit) =>
      queues.insert e.1 ((queues.get? e.1).getD [] ++ [e.2])
    ((ends.foldl step queues).get? p).getD [] =
      (queues.get? p).getD [] ++
        (ends.filter fun e => e.1.components = p.components).map (·.2) := by
  intro step
  induction ends generalizing queues with
  | nil => simp
  | cons e ends ih =>
    rw [List.foldl_cons, ih, PathMap.get?_insert]
    by_cases same : p.components = e.1.components
    · simp [same, queues.get?_congr same]
    · simp [same, Ne.symm same]

/-- For a program stand the ends that were given for it, under any spelling, in their order. -/
theorem queue_lineUp (m : Machine) (ends : List (Path × Exit)) (p : Path) :
    queue { m with exits := lineUp ends } p =
      (ends.filter fun e => e.1.components = p.components).map (·.2) :=
  getD_lineUp ends .empty p

end Machine

namespace Session

open Machine (Answer AgreeOn)

/-- Starts commands one after the other, whatever each of them comes to. -/
def executeAll (s : Session) : List Command → List Answer × Session
  | [] => ([], s)
  | c :: cs =>
    let (ending, t) := (execute c).run s
    let (answers, u) := t.executeAll cs
    (⟨c, ending⟩ :: answers, u)

theorem executeAll_eq (s : Session) (cs : List Command) :
    s.executeAll cs = (s.machine.answers cs,
      { s with machine := s.machine.after cs, commands := s.commands ++ cs.toArray }) := by
  induction cs generalizing s with
  | nil => simp [executeAll, Machine.answers, Machine.after]
  | cons c cs ih =>
    have noted : s.commands.push c ++ cs.toArray = s.commands ++ (c :: cs).toArray := by
      rw [← Array.toList_inj]
      simp
    simp only [executeAll, Act.run_execute, ih, Machine.answers, Machine.after, started, noted]

theorem execute_of_startError {s : Session} {c : Command} {error : SystemError}
    (fails : s.machine.startErrors.get? c.program = some error) :
    (execute c).run s = (.error error, { s with commands := s.commands.push c }) := by
  rw [Act.run_execute, started]
  simp only [Machine.run, fails]

/-- Every program has its turns. Of commands that are started one after the other each is noted,
and each comes to the end whose turn it is: with `k - 1` starts of its program before it, to the
`k`-th of the ends that were lined up for that program under any spelling, to the last one if
there are fewer, and to a good end if there are none. A program that does not start fails and
leaves the machine as it is. What comes of one program does not depend on starts of others. -/
theorem turns_taken (s : Session) (cs : List Command) :
    (s.executeAll cs).1 = cs.mapIdx (fun i c =>
      ⟨c, s.machine.turn c.program ((cs.take i).countP (Command.starts c.program) + 1)⟩) ∧
    (s.executeAll cs).2.commands = s.commands ++ cs.toArray ∧
    (s.executeAll cs).2.machine.startErrors = s.machine.startErrors ∧
    (∀ c error, s.machine.startErrors.get? c.program = some error →
      (execute c).run s = (.error error, { s with commands := s.commands.push c })) ∧
    (∀ p, (s.executeAll cs).2.machine.queue p = match s.machine.startErrors.get? p with
      | some _ => s.machine.queue p
      | none => (s.machine.queue p).drop
        (min (cs.countP (Command.starts p)) ((s.machine.queue p).length - 1))) ∧
    (∀ ends p, Machine.queue { s.machine with exits := Machine.lineUp ends } p =
      (ends.filter fun e => e.1.components = p.components).map (·.2)) ∧
    ∀ (p : Path) (t : Session) (ds : List Command), AgreeOn p s.machine t.machine →
      ds.filter (Command.starts p) = cs.filter (Command.starts p) →
      (t.executeAll ds).1.filter (·.command.starts p) =
        (s.executeAll cs).1.filter (·.command.starts p) := by
  rw [executeAll_eq s cs]
  refine ⟨s.machine.answers_eq_mapIdx cs, rfl, s.machine.startErrors_after cs, ?_,
    s.machine.queue_after cs, s.machine.queue_lineUp, ?_⟩
  · intro c error fails
    exact execute_of_startError fails
  · intro p t ds agree same
    rw [executeAll_eq, Machine.filter_answers agree, Machine.filter_answers (.refl p t.machine),
      same]

/-- A machine with an end of its own for each of two spellings of one program, and with a
program that it must not start. -/
def kiosk : Machine := { Machine.empty with
  startErrors := .ofList [(.ofString "/usr/sbin/usermod", .permissionDenied)]
  exits := Machine.lineUp [(.ofString "/usr/bin/getsubids", .exited 1),
    (.ofString "/usr//bin/./getsubids", .exited 2)] }

/-- The program at a path, started without arguments. -/
def bareCommand (program : String) : Command :=
  ⟨.ofString program, program, [], [], .null, .null, .null⟩

/-- The first end is used up by one spelling and the second stays for both. The program that
does not start takes none, and neither does the one that no end was lined up for. -/
theorem turns_taken_kiosk :
    let query := bareCommand "/usr/bin/getsubids"
    let query' := bareCommand "/usr/bin//getsubids/"
    let account := bareCommand "/usr/sbin/usermod"
    let other := bareCommand "/bin/true"
    let cs := [account, query', other, query, account, query']
    let s := Session.start kiosk false
    (s.executeAll cs).1.map (·.ending) = [.error .permissionDenied, .ok (.exited 1),
      .ok (.exited 0), .ok (.exited 2), .error .permissionDenied, .ok (.exited 2)] ∧
    (execute account).run s = (.error .permissionDenied, { s with commands := #[account] }) ∧
    (s.executeAll [query', account, query, query']).1.filter (·.command.starts query.program) =
      (s.executeAll cs).1.filter (·.command.starts query.program) := by
  intro query query' account other cs s
  obtain ⟨answered, -, -, fails, -, -, apart⟩ := turns_taken s cs
  refine ⟨?_, fails account .permissionDenied (by decide +kernel), ?_⟩
  · rw [answered]
    decide +kernel
  · exact apart query.program s [query', account, query, query'] ⟨rfl, rfl⟩ (by decide +kernel)

end Session

end SubordinateIds
