import Mathlib.Data.List.Forall2
import SubordinateIds.Journal.Log
import SubordinateIds.Proofs.Text.Decimal
import SubordinateIds.Proofs.Text.Json
import SubordinateIds.Proofs.Text.Lines

/-
  JSON lines — a log that is read back

  A line of the log is one object, written without white space, and so without line feeds:
  whatever stands in a label or a message, the log can be cut into its lines again. Each of
  them is read as its four members, and the members as the event and its time. So from the
  log the events are known, all of them and in their order (`readLines?_lines`).
-/

namespace SubordinateIds

/-- The level that has a name. -/
def Level.read? (name : String) : Option Level :=
  [debug, warning, error].find? (·.name == name)

theorem Level.read?_name (level : Level) : read? level.name = some level := by
  cases level <;> decide

namespace LogFormat

/-- The number that a word of digits stands for. -/
def number? (word : String) : Option Nat :=
  if word.toList ≠ [] ∧ word.toList.all Char.isDigit = true then
    some (Nat.ofDigitChars 10 word.toList 0)
  else none

/-- The event and the time that a line tells. The members have to be the four there are, in
their order. -/
def readLine? (line : String) : Option (Event × Nat) :=
  match Json.read? line with
  | some [(k₁, .text level), (k₂, .text label), (k₃, .text message), (k₄, .word time)] =>
    if [k₁, k₂, k₃, k₄] = ["level", "event", "message", "timestamp_ms"] then
      (Level.read? level).bind fun level => (number? time).map (⟨level, label, message⟩, ·)
    else none
  | _ => none

/-- The members of the object for an event at a time. -/
def members (e : Event × Nat) : List (String × Json.Value) := [
  ("level", .text e.1.level.name), ("event", .text e.1.label), ("message", .text e.1.message),
  ("timestamp_ms", .word (Nat.repr e.2))]

theorem sound_members (e : Event × Nat) : ∀ m ∈ members e, m.2.Sound := by
  obtain ⟨filled, digits, -⟩ := Decimal.digits_repr e.2
  have letters : ∀ c ∈ (Nat.repr e.2).toList, Json.isWord c = true := fun c mem =>
    Json.isWord_of_isDigit (digits c mem)
  simp only [members, List.forall_mem_cons, Json.Value.Sound, true_and]
  exact ⟨⟨filled, letters⟩, by simp⟩

theorem number?_repr (n : Nat) : number? (Nat.repr n) = some n := by
  obtain ⟨filled, digits, value⟩ := Decimal.digits_repr n
  rw [number?, if_pos ⟨filled, List.all_eq_true.mpr digits⟩, value]

theorem line_json (e : Event × Nat) :
    LogFormat.json.line e.2 e.1 = Json.object .compact (members e) ++ "\n" := by
  have level : JsonString.encode "level" = "\"level\"" := by decide
  have event : JsonString.encode "event" = "\"event\"" := by decide
  have message : JsonString.encode "message" = "\"message\"" := by decide
  have time : JsonString.encode "timestamp_ms" = "\"timestamp_ms\"" := by decide
  apply String.toList_inj.mp
  unfold line
  simp only [members, Json.object, Json.membersChars_cons_cons, Json.membersChars_singleton,
    Json.memberChars, Json.Layout.compact, Json.Value.chars, level, event, message, time,
    Nat.toString_eq_repr, String.reduceToList, String.toList_append, String.toList_ofList,
    List.cons_append, List.nil_append, List.append_assoc]

theorem lines_json (events : List (Event × Nat)) :
    Text.Lines (LogFormat.json.lines events)
      (events.map fun e => Json.object .compact (members e)) := by
  constructor
  · rw [lines, List.map_map]
    exact congrArg String.join (List.map_congr_left fun e _ => line_json e)
  · intro row mem feed
    obtain ⟨e, -, rfl⟩ := List.mem_map.mp mem
    exact absurd (Json.le_of_mem_compact (sound_members e) feed) (by decide)

theorem readLine?_object (e : Event × Nat) :
    readLine? (Json.object .compact (members e)) = some e := by
  rw [readLine?, Json.read?_object _ (sound_members e)]
  simp only [members, Level.read?_name, number?_repr, Option.bind_some, Option.map_some, if_true]

theorem readLines?_lines (events : List (Event × Nat)) :
    Text.readLines? readLine? (LogFormat.json.lines events) = some events := by
  have read := (lines_json events).readLines?_eq readLine?_object
  rwa [List.map_id''] at read
  exact fun _ => rfl

/-- A JSON log has one line for each event, which is one object with the four keys in their
order, and each line is written without control characters; nothing else in the log is a line
feed. From it the events are read back, all of them with their times and in their order, so
no other events are written alike. -/
theorem json_lines_faithful (events : List (Event × Nat)) :
    let log := LogFormat.json.lines events
    (∃ ls, Text.Lines log ls ∧ List.Forall₂ (fun e row =>
        Json.read? row = some [("level", .text e.1.level.name), ("event", .text e.1.label),
          ("message", .text e.1.message), ("timestamp_ms", .word (toString e.2))] ∧
        ∀ c ∈ row.toList, 0x20 ≤ c.toNat) events ls) ∧
      log.toList.count '\n' = events.length ∧
      Text.readLines? readLine? log = some events ∧
      ∀ others, LogFormat.json.lines others = log → others = events := by
  intro log
  have lines := lines_json events
  refine ⟨⟨_, lines, ?_⟩, ?_, readLines?_lines events, ?_⟩
  · rw [List.forall₂_map_right_iff, List.forall₂_same]
    intro e _
    exact ⟨Json.read?_object _ (sound_members e), fun c => Json.le_of_mem_compact (sound_members e)⟩
  · rw [lines.count_feed, List.length_map]
  · intro others same
    apply Option.some.inj
    calc some others
      _ = Text.readLines? readLine? (LogFormat.json.lines others) := (readLines?_lines others).symm
      _ = Text.readLines? readLine? log := by rw [same]
      _ = some events := readLines?_lines events

end LogFormat

end SubordinateIds
