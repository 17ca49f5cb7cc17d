/-
  Lines — texts that are made of lines

  A line ends at a line feed and holds none. So a text is made of at most one list of
  lines, which `lines?` finds, and it has as many lines as line feeds.
-/

namespace SubordinateIds.Text

/-- The text is made of these lines: each is followed by a line feed and holds none. -/
def Lines (text : String) (ls : List String) : Prop :=
  text = String.join (ls.map (· ++ "\n")) ∧ ∀ l ∈ ls, '\n' ∉ l.toList

/-- The lines of a text. There are none if it does not end where a line ends. -/
def lines? (text : String) : Option (List String) :=
  let pieces := List.splitOn '\n' text.toList
  if pieces.getLast? = some [] then some (pieces.dropLast.map String.ofList) else none

/-- What is read line by line off a text. -/
def readLines? {α : Type} (read : String → Option α) (text : String) : Option (List α) :=
  (lines? text).bind fun ls => ls.mapM read

variable {text : String} {ls : List String}

theorem toList_join_lines (ls : List String) :
    (String.join (ls.map (· ++ "\n"))).toList = ls.flatMap fun l => l.toList ++ ['\n'] := by
  induction ls with
  | nil => rfl
  | cons l ls ih => simp [String.toList_append, ih]

theorem splitOn_flatMap_line (single : ∀ l ∈ ls, '\n' ∉ l.toList) :
    List.splitOn '\n' (ls.flatMap fun l => l.toList ++ ['\n']) = ls.map String.toList ++ [[]] := by
  induction ls with
  | nil => rfl
  | cons l ls ih =>
    obtain ⟨first, others⟩ := List.forall_mem_cons.mp single
    rw [List.flatMap_cons, List.append_assoc, List.singleton_append,
      List.splitOn_append_cons_self, List.splitOn_eq_singleton first, ih others]
    rfl

namespace Lines

theorem lines?_eq (h : Lines text ls) : lines? text = some ls := by
  obtain ⟨rfl, single⟩ := h
  rw [lines?, toList_join_lines, splitOn_flatMap_line single]
  simp

theorem readLines?_eq {α β : Type} {read : String → Option β} {items : List α}
    {line : α → String} {value : α → β} (h : Lines text (items.map line))
    (reads : ∀ item, read (line item) = some (value item)) :
    readLines? read text = some (items.map value) := by
  rw [readLines?, h.lines?_eq, Option.bind_some]
  clear h
  induction items with
  | nil => rfl
  | cons item items ih => simp [List.mapM_cons, reads, ih]

theorem count_feed (h : Lines text ls) : text.toList.count '\n' = ls.length := by
  obtain ⟨rfl, single⟩ := h
  rw [toList_join_lines]
  induction ls with
  | nil => rfl
  | cons l ls ih =>
    obtain ⟨first, others⟩ := List.forall_mem_cons.mp single
    simp [List.count_eq_zero.mpr first, ih others]

theorem exists_front {l : String} (h : Lines text (ls ++ [l])) :
    ∃ front, text = front ++ l ++ "\n" := by
  refine ⟨String.join (ls.map (· ++ "\n")), ?_⟩
  rw [h.1, String.append_assoc]
  simp

end Lines

end SubordinateIds.Text
