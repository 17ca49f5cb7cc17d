import SubordinateIds.Configuration.Render
import SubordinateIds.Proofs.Configuration.Listing
import SubordinateIds.Proofs.Text.Blank
import SubordinateIds.Proofs.Text.Decimal
import SubordinateIds.Proofs.Text.Json
import SubordinateIds.Proofs.Text.Lines

/-
  Renderings — reading a shown configuration back

  Each form is read by what is known of it: a JSON text is an object, a text or TOML is made
  of lines, and each line is a key and a value with a mark between them. Whatever the
  configuration, what is read are the ten keys, in their order, with what the configuration
  has there (`read?_render`). So no two configurations are shown alike.
-/

namespace SubordinateIds

/-! ## Pairs on lines -/

namespace Text

/-- The key and the value on a line: what stands in front of the first mark and what follows
it, without the blanks around them. -/
def pairAt? (mark : Char) (line : String) : Option (String × String) :=
  match line.toList.dropWhile (· != mark) with
  | [] => none
  | _ :: after => some (String.ofList (trim (line.toList.takeWhile (· != mark))),
      String.ofList (trim after))

/-- The text is not empty, and no blank is in it. -/
structure Unbroken (text : String) : Prop where
  filled : text.toList ≠ []
  solid : ∀ c ∈ text.toList, isBlank c = false

theorem Unbroken.ends {text : String} (h : Unbroken text) : Begins text.toList ∧ Stops text.toList := by
  obtain ⟨filled, solid⟩ := h
  constructor
  · obtain ⟨c, rest, split⟩ := List.exists_cons_of_ne_nil filled
    exact ⟨c, rest, split, solid c (by simp [split])⟩
  · obtain ⟨front, c, split⟩ := List.eq_nil_or_concat text.toList |>.resolve_left filled
    rw [List.concat_eq_append] at split
    exact ⟨front, c, split, solid c (by simp [split])⟩

theorem pairAt?_eq {mark : Char} {key value : String} {left right : List Char}
    (unbroken : Unbroken key) (unbroken' : Unbroken value) (unmarked : mark ∉ key.toList ++ left)
    (blankLeft : ∀ c ∈ left, isBlank c = true) (blankRight : ∀ c ∈ right, isBlank c = true) :
    pairAt? mark (String.ofList (key.toList ++ left ++ mark :: (right ++ value.toList))) =
      some (key, value) := by
  have none (c : Char) (mem : c ∈ key.toList ++ left) : (c != mark) = true := by
    rw [bne_iff_ne]
    rintro rfl
    exact unmarked mem
  have nothing : ∀ c ∈ ([] : List Char), isBlank c = true := by simp
  have front : trim (key.toList ++ left) = key.toList := by
    simpa using trim_eq nothing unbroken.ends.1 unbroken.ends.2 blankLeft
  have back : trim (right ++ value.toList) = value.toList := by
    simpa using trim_eq blankRight unbroken'.ends.1 unbroken'.ends.2 nothing
  rw [pairAt?, String.toList_ofList, List.dropWhile_append_of_pos none,
    List.takeWhile_append_of_pos none, List.dropWhile_cons_of_neg (by simp),
    List.takeWhile_cons_of_neg (by simp)]
  simp only [List.append_nil, front, back, String.ofList_toList]

end Text

namespace Configuration

/-! ## What is to be read -/

/-- The word for the position of a switch in a form. -/
def Form.word : Form → Bool → String
  | .text, on => if on then "yes" else "no"
  | .json, on | .toml, on => if on then "true" else "false"

/-- The pairs that a configuration is shown as, with words for the positions of switches. -/
def entries (c : Configuration) (word : Bool → String) : List (String × String) := [
  ("UID_MIN", toString c.uidMin), ("UID_MAX", toString c.uidMax),
  ("SUB_UID_MIN", toString c.userPool.min), ("SUB_UID_MAX", toString c.userPool.max),
  ("SUB_UID_COUNT", toString c.userPool.count),
  ("SUB_GID_MIN", toString c.groupPool.min), ("SUB_GID_MAX", toString c.groupPool.max),
  ("SUB_GID_COUNT", toString c.groupPool.count),
  ("SKIP_IF_EXISTS", word c.skipIfExists), ("ALLOW_SUBID_WRAP", word c.allowWrap)]

/-- The pairs that are read off a rendering, by nothing but its form. -/
def Form.read? : Form → String → Option (List (String × String))
  | .text, shown => Text.readLines? (Text.pairAt? ':') shown
  | .toml, shown => Text.readLines? (Text.pairAt? '=') shown
  | .json, shown => (Json.read? shown).bind fun members => members.mapM fun
      | (key, .word spelled) => some (key, spelled)
      | (_, .text _) => none

/-- The line for a key in the text form, where the value begins in this column. -/
def row (c : Configuration) (column : Nat) (key : Key) : String :=
  let label := key.spelling ++ ":"
  label ++ String.ofList (List.replicate (column - label.length) ' ') ++ c.valueText key

variable {c d : Configuration} {form : Form}

/-! ## What is written for a key -/

/-- What is written for a key, with words for the positions of switches. -/
def written (c : Configuration) (word : Bool → String) : Key → String
  | .number key => toString (c.number key)
  | .switch key => word (c.switch key)

theorem entries_eq (c : Configuration) (word : Bool → String) :
    c.entries word = Key.all.map fun key => (key.spelling, c.written word key) := rfl

theorem valueText_eq (c : Configuration) (key : Key) :
    c.valueText key = c.written (Form.word .text) key := by
  cases key <;> rfl

theorem literal_eq (c : Configuration) (key : Key) :
    c.literal key = c.written (Form.word .json) key := by
  cases key <;> rfl

theorem isWord_written (c : Configuration) (form : Form) (key : Key) :
    (c.written form.word key).toList ≠ [] ∧
      ∀ d ∈ (c.written form.word key).toList, Json.isWord d = true := by
  cases key with
  | number key =>
    obtain ⟨filled, digits, -⟩ := Decimal.digits_toString (c.number key)
    exact ⟨filled, fun d mem => Json.isWord_of_isDigit (digits d mem)⟩
  | switch key =>
    have word (on : Bool) : (form.word on).toList ≠ [] ∧
        (form.word on).toList.all Json.isWord = true := by
      cases on <;> cases form <;> decide
    obtain ⟨filled, letters⟩ := word (c.switch key)
    exact ⟨filled, List.all_eq_true.mp letters⟩

theorem unbroken_written (c : Configuration) (form : Form) (key : Key) :
    Text.Unbroken (c.written form.word key) := by
  obtain ⟨filled, letters⟩ := c.isWord_written form key
  exact ⟨filled, fun d mem => Json.isBlank_of_isWord (letters d mem)⟩

theorem eq_of_written (form : Form)
    (same : ∀ key, c.written form.word key = d.written form.word key) : c = d := by
  apply ext_values
  · intro key
    exact Decimal.toString_inj (same (.number key))
  · intro key
    have words : form.word (c.switch key) = form.word (d.switch key) := same (.switch key)
    generalize c.switch key = on, d.switch key = on' at words
    cases form <;> cases on <;> cases on' <;> first | rfl | exact absurd words (by decide)

theorem eq_of_entries (same : c.entries form.word = d.entries form.word) : c = d := by
  apply eq_of_written form
  intro key
  rw [entries_eq, entries_eq, List.map_inj_left] at same
  exact congrArg Prod.snd (same key key.mem_all)

/-! ## Text and TOML -/

theorem unbroken_spelling (key : Key) : Text.Unbroken key.spelling := by
  have each : ∀ key : Key, key.spelling.toList ≠ [] ∧
    key.spelling.toList.all (!Text.isBlank ·) = true := by decide
  obtain ⟨filled, solid⟩ := each key
  refine ⟨filled, ?_⟩
  intro c mem
  simpa using List.all_eq_true.mp solid c mem

theorem feed_not_mem {text : String} (h : Text.Unbroken text) : '\n' ∉ text.toList := by
  intro mem
  exact absurd (h.solid _ mem) (by decide)

theorem unmarked_spelling (key : Key) : ':' ∉ key.spelling.toList ∧ '=' ∉ key.spelling.toList := by
  revert key
  decide

theorem length_label_le (key : Key) : (key.spelling ++ ":").length ≤ labelWidth := by
  revert key
  decide

theorem textLine_eq (c : Configuration) (key : Key) :
    c.textLine key = c.row (labelWidth + 1) key ++ "\n" := by
  have wide := length_label_le key
  have spaces : labelWidth + 1 - (key.spelling ++ ":").length =
    labelWidth - (key.spelling ++ ":").length + 1 := by omega
  apply String.toList_inj.mp
  simp only [textLine, label, row, String.toList_append, String.toList_ofList, spaces,
    List.replicate_succ', List.append_assoc]
  rfl

theorem lines_text (c : Configuration) :
    Text.Lines (c.render .text) (Key.all.map (c.row (labelWidth + 1))) := by
  constructor
  · rw [render, List.map_map]
    exact congrArg String.join (List.map_congr_left fun key _ => c.textLine_eq key)
  · intro row mem
    obtain ⟨key, -, rfl⟩ := List.mem_map.mp mem
    have value : '\n' ∉ (c.valueText key).toList := by
      rw [valueText_eq]
      exact feed_not_mem (c.unbroken_written .text key)
    simp [Configuration.row, feed_not_mem (unbroken_spelling key), value]

theorem pairAt?_row (c : Configuration) (column : Nat) (key : Key) :
    Text.pairAt? ':' (c.row column key) = some (key.spelling, c.written (Form.word .text) key) := by
  have split : c.row column key = String.ofList (key.spelling.toList ++ [] ++
      ':' :: (List.replicate (column - (key.spelling ++ ":").length) ' ' ++
        (c.written (Form.word .text) key).toList)) := by
    apply String.toList_inj.mp
    simp [row, valueText_eq]
  rw [split]
  apply Text.pairAt?_eq (unbroken_spelling key) (c.unbroken_written .text key)
  · simpa using (unmarked_spelling key).1
  · simp
  · intro d mem
    rw [List.eq_of_mem_replicate mem]
    rfl

/-- The line for a key in the TOML form. -/
def tomlRow (c : Configuration) (key : Key) : String :=
  key.spelling ++ " = " ++ c.written (Form.word .toml) key

theorem lines_toml (c : Configuration) : Text.Lines (c.render .toml) (Key.all.map c.tomlRow) := by
  constructor
  · rw [render, List.map_map]
    refine congrArg String.join (List.map_congr_left fun key _ => ?_)
    show c.tomlLine key = c.tomlRow key ++ "\n"
    rw [tomlLine, literal_eq]
    rfl
  · intro row mem
    obtain ⟨key, -, rfl⟩ := List.mem_map.mp mem
    simp [tomlRow, feed_not_mem (unbroken_spelling key), feed_not_mem (c.unbroken_written .toml key)]

theorem pairAt?_tomlRow (c : Configuration) (key : Key) :
    Text.pairAt? '=' (c.tomlRow key) = some (key.spelling, c.written (Form.word .toml) key) := by
  have split : c.tomlRow key = String.ofList (key.spelling.toList ++ [' '] ++
      '=' :: ([' '] ++ (c.written (Form.word .toml) key).toList)) := by
    apply String.toList_inj.mp
    simp [tomlRow]
  have space : ∀ d ∈ [' '], Text.isBlank d = true := by simp [Text.isBlank]
  rw [split]
  apply Text.pairAt?_eq (unbroken_spelling key) (c.unbroken_written .toml key) ?_ space space
  simpa using (unmarked_spelling key).2

/-! ## JSON -/

/-- The members of the JSON form. -/
def members (c : Configuration) : List (String × Json.Value) :=
  Key.all.map fun key => (key.spelling, .word (c.written (Form.word .json) key))

theorem encode_spelling (key : Key) :
    JsonString.encode key.spelling = "\"" ++ key.spelling ++ "\"" := by
  revert key
  decide

theorem render_json (c : Configuration) : c.render .json = Json.object .pretty c.members := by
  have member (key : Key) : (c.jsonMember key).toList =
      Json.memberChars .pretty (key.spelling, .word (c.written (Form.word .json) key)) := by
    simp [jsonMember, literal_eq, Json.memberChars, Json.Layout.pretty, Json.Value.chars,
      encode_spelling]
  apply String.toList_inj.mp
  simp [render, Json.object, Json.membersChars, Json.Layout.pretty, members,
    String.toList_intercalate, Function.comp_def, member]

theorem read?_json (c : Configuration) : Json.read? (c.render .json) = some c.members := by
  rw [render_json]
  apply Json.read?_object
  intro member mem
  obtain ⟨key, -, rfl⟩ := List.mem_map.mp mem
  exact c.isWord_written .json key

/-! ## Reading back -/

theorem read?_render (c : Configuration) (form : Form) :
    form.read? (c.render form) = some (c.entries form.word) := by
  rw [entries_eq]
  cases form with
  | text => exact c.lines_text.readLines?_eq (c.pairAt?_row _)
  | toml => exact c.lines_toml.readLines?_eq c.pairAt?_tomlRow
  | json =>
    rw [Form.read?, read?_json]
    rfl

theorem render_inj {form : Form} (same : c.render form = d.render form) : c = d := by
  apply eq_of_entries
  apply Option.some.inj
  calc some (c.entries form.word)
    _ = form.read? (c.render form) := (c.read?_render form).symm
    _ = form.read? (d.render form) := by rw [same]
    _ = some (d.entries form.word) := d.read?_render form

/-! ## The end of a rendering -/

theorem stops_row (c : Configuration) (column : Nat) (key : Key) :
    Text.Stops (c.row column key).toList := by
  rw [row, String.toList_append, valueText_eq]
  exact (c.unbroken_written .text key).ends.2.append _

theorem stops_tomlRow (c : Configuration) (key : Key) : Text.Stops (c.tomlRow key).toList := by
  rw [tomlRow, String.toList_append]
  exact (c.unbroken_written .toml key).ends.2.append _

theorem exists_body_of_lines {text : String} {line : Key → String}
    (lines : Text.Lines text (Key.all.map line)) (stops : ∀ key, Text.Stops (line key).toList) :
    ∃ body, text = body ++ "\n" ∧ Text.Stops body.toList := by
  obtain ⟨front, last, all⟩ : ∃ front last, Key.all = front ++ [last] :=
    ⟨Key.all.dropLast, .switch .allowWrap, rfl⟩
  rw [all, List.map_append, List.map_singleton] at lines
  obtain ⟨above, shown⟩ := lines.exists_front
  refine ⟨above ++ line last, shown, ?_⟩
  rw [String.toList_append]
  exact (stops last).append _

theorem exists_body (c : Configuration) (form : Form) :
    ∃ body, (c.render form = body ∨ c.render form = body ++ "\n") ∧ Text.Stops body.toList := by
  cases form with
  | text =>
    obtain ⟨body, shown, stops⟩ := exists_body_of_lines c.lines_text (c.stops_row _)
    exact ⟨body, .inr shown, stops⟩
  | toml =>
    obtain ⟨body, shown, stops⟩ := exists_body_of_lines c.lines_toml c.stops_tomlRow
    exact ⟨body, .inr shown, stops⟩
  | json =>
    refine ⟨_, .inl rfl, ?_⟩
    rw [render, String.toList_append]
    exact Text.Stops.append ⟨['\n'], '\x7d', rfl, rfl⟩ _

/-- What is left of a rendering without the blanks at its end is the rendering without line
feeds at its end. -/
theorem trimEnd_render (c : Configuration) (form : Form) :
    ∃ body n, String.ofList (Text.trimEnd (c.render form).toList) = body ∧
      c.render form = body ++ String.ofList (List.replicate n '\n') ∧
      body.toList.getLast? ≠ some '\n' := by
  obtain ⟨body, shown, stops⟩ := c.exists_body form
  have noFeed : body.toList.getLast? ≠ some '\n' := by
    obtain ⟨front, d, ends, filled⟩ := stops
    rw [ends, List.getLast?_concat]
    rintro same
    cases same
    cases filled
  obtain shown | shown := shown
  · refine ⟨body, 0, ?_, by simpa using shown, noFeed⟩
    rw [shown, ← List.append_nil body.toList, Text.trimEnd_eq stops (by simp), String.ofList_toList]
  · refine ⟨body, 1, ?_, shown, noFeed⟩
    have feed : ∀ d ∈ "\n".toList, Text.isBlank d = true := by simp [Text.isBlank]
    rw [shown, String.toList_append, Text.trimEnd_eq stops feed, String.ofList_toList]

end Configuration

end SubordinateIds
