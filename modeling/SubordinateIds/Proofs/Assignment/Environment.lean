import SubordinateIds.Proofs.Assignment.Congruence
import SubordinateIds.Proofs.Assignment.Starts
import SubordinateIds.Proofs.Configuration.Trust

/-
  Environment — what the tools are told of the caller's environment, and nothing else is

  A variable may be given several times in the caller's environment, and then the last one
  counts: `Machine.Defines`. Of the variables that are defined, five are handed on to the
  tools, in a fixed order and with the values that the caller gave them, octet by octet.

  Nothing else in a run asks for a variable. So two machines that define the five alike, and
  differ in nothing but their environments, are not told apart by a run.
-/

namespace SubordinateIds

namespace Machine

/-- The caller's environment gives the variable this value: no later one gives it another. -/
def Defines (m : Machine) (key : String) (value : Octets) : Prop :=
  ∃ before after, m.environment = before ++ (key, value) :: after ∧ ∀ e ∈ after, e.1 ≠ key

theorem envValue?_eq_some_iff {m : Machine} {key : String} {value : Octets} :
    m.envValue? key = some value ↔ m.Defines key value := by
  unfold envValue? Defines
  rw [List.lookup_eq_some_iff]
  constructor
  · intro h
    obtain ⟨after, before, reversed, others⟩ := h
    refine ⟨before.reverse, after.reverse, ?_, ?_⟩
    · rw [← List.reverse_reverse m.environment, reversed]
      simp
    · intro e mem
      exact Ne.symm (bne_iff_ne.mp (others e (List.mem_reverse.mp mem)))
  · intro h
    obtain ⟨before, after, given, others⟩ := h
    refine ⟨after.reverse, before.reverse, ?_, ?_⟩
    · rw [given]
      simp
    · intro e mem
      exact bne_iff_ne.mpr (Ne.symm (others e (List.mem_reverse.mp mem)))

/-- The machines differ in nothing but variables that are not handed on to the tools. -/
structure SameHandedOn (m m' : Machine) : Prop where
  frame : m' = { m with environment := m'.environment }
  values : ∀ key ∈ Tools.handedOn, ∀ value, m.Defines key value ↔ m'.Defines key value

end Machine

namespace Tools

theorem mem_environment_iff {m : Machine} {key : String} {value : Octets} :
    (key, value) ∈ environment m ↔ key ∈ handedOn ∧ m.Defines key value := by
  simp only [environment, List.mem_filterMap, Option.map_eq_some_iff, Prod.mk.injEq,
    ← Machine.envValue?_eq_some_iff]
  constructor
  · intro h
    obtain ⟨key', handed, value', found, rfl, rfl⟩ := h
    exact ⟨handed, found⟩
  · intro h
    exact ⟨key, h.1, value, h.2, rfl, rfl⟩

/-- The variables keep their order, and each is there at most once. -/
theorem keys_environment_sublist (m : Machine) :
    ((environment m).map Prod.fst).Sublist handedOn := by
  unfold environment
  induction handedOn with
  | nil => exact .slnil
  | cons key keys ih =>
    cases found : m.envValue? key with
    | none =>
      simp only [List.filterMap_cons, found, Option.map_none]
      exact ih.cons key
    | some value =>
      simp only [List.filterMap_cons, found, Option.map_some, List.map_cons]
      exact ih.cons_cons key

end Tools

namespace Machine.SameHandedOn

variable {m m' : Machine}

theorem environment (h : m.SameHandedOn m') : Tools.environment m = Tools.environment m' := by
  unfold Tools.environment
  refine List.filterMap_congr ?_
  intro key handed
  have same : m.envValue? key = m'.envValue? key := by
    refine Option.ext fun value => ?_
    rw [envValue?_eq_some_iff, envValue?_eq_some_iff]
    exact h.values key handed value
  rw [same]

theorem run (h : m.SameHandedOn m') (p : Path) :
    (m.run p).1 = (m'.run p).1 ∧ (m.run p).2.SameHandedOn (m'.run p).2 := by
  obtain ⟨exits, ran⟩ := m.run_frame p
  have starts : m'.startErrors = m.startErrors := by rw [h.frame]
  have queues : m'.exits = m.exits := by rw [h.frame]
  rw [run_eq starts queues, ran]
  refine ⟨rfl, ?_, h.values⟩
  rw [h.frame]

/-- A run does not tell the machines apart: all it asks for besides the environment of the
tools is the same on both. -/
theorem congruence : Machine.Congruence Machine.SameHandedOn where
  find m m' h := by
    rw [h.frame]
    rfl
  loading m m' h sources := by
    rw [h.frame]
    exact Loading.run_congr (fun _ => rfl) rfl rfl
  environment _ _ h := h.environment
  run _ _ h := h.run

end Machine.SameHandedOn

namespace Assignment.Run

theorem env_of_mem {r : Run} {command : Command} (mem : command ∈ r.commands) :
    command.env = Tools.environment r.machine := by
  obtain ⟨account, c, -, -, kind, -, owns⟩ := Run.owns mem
  rcases owns.cases with rfl | ⟨block, -, -, rfl⟩
  · rfl
  · rfl

/-- The tools are told five variables at most, in this order and each of them once, namely
those that the caller defines, with the values that they have there. Other variables change
nothing in what the run comes to, in what it reports, opens and starts. -/
theorem environment_closed (r : Run) :
    (∀ command ∈ r.commands,
      (command.env.map Prod.fst).Sublist ["LANG", "LC_ALL", "LC_MESSAGES", "LC_CTYPE", "TZ"] ∧
        ∀ key value, (key, value) ∈ command.env ↔
          key ∈ ["LANG", "LC_ALL", "LC_MESSAGES", "LC_CTYPE", "TZ"] ∧
            r.machine.Defines key value) ∧
    ∀ m, r.machine.SameHandedOn m →
      (r.on m).result = r.result ∧ (r.on m).events = r.events ∧ (r.on m).opened = r.opened ∧
        (r.on m).commands = r.commands := by
  refine ⟨?_, ?_⟩
  · intro command mem
    rw [env_of_mem mem]
    exact ⟨Tools.keys_environment_sublist r.machine, fun key value => Tools.mem_environment_iff⟩
  · intro m same
    obtain ⟨result, commands, opened, events⟩ := r.on_congr Machine.SameHandedOn.congruence same
    exact ⟨result, events, opened, commands⟩

/-- An office whose caller set its language twice, the second time to an octet that is no
text, and a search path of its own. -/
def babel (searchPath : Octets) : Machine := { office with
  environment := [("LANG", [67]), ("PATH", searchPath), ("LANG", [255])] }

theorem sameHandedOn_babel (searchPath searchPath' : Octets) :
    (babel searchPath).SameHandedOn (babel searchPath') := by
  refine ⟨rfl, ?_⟩
  intro key handed value
  rw [← Machine.envValue?_eq_some_iff, ← Machine.envValue?_eq_some_iff]
  simp only [Tools.handedOn, List.mem_cons, List.not_mem_nil, or_false] at handed
  rcases handed with rfl | rfl | rfl | rfl | rfl <;> rfl

/-- A query that is told the second language and no search path, whichever that is. -/
theorem environment_closed_babel :
    let r : Run := ⟨babel [], .everything, .standard, .standard, ⟨"ann", [.user], true⟩⟩
    let query : Command := ⟨Tools.standard.queryTool, "getsubids", ["ann"], [("LANG", [255])],
      .null, .inherit, .inherit⟩
    query ∈ r.commands ∧ r.machine.Defines "LANG" [255] ∧
      (babel []).SameHandedOn (babel [47]) ∧ (r.on (babel [47])).commands = r.commands := by
  intro r query
  have started : query ∈ r.commands := by decide +kernel
  have same := sameHandedOn_babel [] [47]
  obtain ⟨told, unseen⟩ := environment_closed r
  have defined := ((told query started).2 "LANG" [255]).mp List.mem_cons_self
  exact ⟨started, defined.2, same, (unseen (babel [47]) same).2.2.2⟩

end Assignment.Run

end SubordinateIds
