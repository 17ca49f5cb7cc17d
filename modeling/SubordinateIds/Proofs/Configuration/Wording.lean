import SubordinateIds.Proofs.Configuration.Directory
import SubordinateIds.Proofs.Configuration.Line
import SubordinateIds.Proofs.Octets
import SubordinateIds.Proofs.Path.Validity

/-
  Wording — what the messages of loading are made of

  A message is made of words that are fixed, of numbers, and of what was found: the path of a
  file, the name of an entry, the key and the value on a line. Lines are cut at line feeds,
  so a key and a value hold none, whatever is in the file. What is left are paths and names:
  where they hold no line feed, no message does.
-/

namespace SubordinateIds

/-! ## What is found -/

@[simp] theorem Text.toString_text (text : String) : toString text = text := rfl

theorem Utf8.newline_not_mem_lossy {bs : Octets} (h : Line.feed ∉ bs) :
    '\n' ∉ (Utf8.lossy bs).toList := by
  intro mem
  exact h (Utf8.mem_of_mem_lossy mem (by decide) (by decide))

theorem Path.newline_not_mem_display {p : Path} (h : Line.feed ∉ p.octets) :
    '\n' ∉ p.display.toList := Utf8.newline_not_mem_lossy h

theorem Path.feed_not_mem_child {p : Path} {name : Octets} (h : Line.feed ∉ p.octets)
    (h' : Line.feed ∉ name) : Line.feed ∉ (p.child name).octets := by
  have slash : Line.feed ≠ Path.slash := by decide
  unfold Path.child
  split <;> simp [h, h', slash]

theorem Text.newline_not_mem_toDigits {base : Nat} (many : 0 < base) (few : base ≤ 10) (n : Nat) :
    '\n' ∉ Nat.toDigits base n := by
  intro mem
  exact absurd (Nat.isDigit_of_mem_toDigits many few mem) (by decide)

@[simp] theorem Text.newline_not_mem_decimal (n : Nat) : '\n' ∉ Nat.toDigits 10 n :=
  Text.newline_not_mem_toDigits (by decide) (by decide) n

@[simp] theorem Text.newline_not_mem_toString (n : UInt32) : '\n' ∉ (toString n).toList := by
  intro mem
  exact absurd ((Decimal.digits_toString n).2.1 _ mem) (by decide)

/-! ## Faults -/

@[simp] theorem SystemError.newline_not_mem_toString (error : SystemError) :
    '\n' ∉ (toString error).toList := by
  cases error <;> decide

@[simp] theorem FileStatus.newline_not_mem_octal (n : UInt32) :
    '\n' ∉ (FileStatus.octal n).toList := by
  rw [FileStatus.octal, String.toList_ofList]
  exact Text.newline_not_mem_toDigits (by decide) (by decide) n.toNat

@[simp] theorem FileStatus.Violation.newline_not_mem_message (violation : FileStatus.Violation) :
    '\n' ∉ violation.message.toList := by
  have described (type : FileType) : '\n' ∉ (toString type).toList := by cases type <;> decide
  unfold FileStatus.Violation.message
  cases violation with
  | notRegular type => simp [described]
  | notDirectory type => simp [described]
  | notRootOwned owner => simp
  | worldWritable mode => simp

theorem Path.newline_not_mem_fault {p : Path} {fault : Path.Fault} (h : Line.feed ∉ p.octets)
    (invalid : p.check = .error fault) : '\n' ∉ fault.message.toList := by
  have shown := Path.newline_not_mem_display h
  unfold Path.Fault.message
  cases Path.check_eq_iff.mp invalid with
  | empty => decide
  | tooLong => simp
  | relative => simp [shown]
  | climbs => simp [shown]
  | longComponent => decide

theorem Decimal.newline_not_mem_fault {text : String} {fault : Decimal.Fault}
    (h : '\n' ∉ text.toList) (invalid : Decimal.read text = .error fault) :
    '\n' ∉ fault.message.toList := by
  unfold Decimal.Fault.message
  cases Decimal.read_eq_iff.mp invalid with
  | empty => decide
  | signed => simp [h]
  | leadingBlank => simp [h]
  | outOfRange => simp [h]
  | notNumeric => simp [h]

@[simp] theorem Key.newline_not_mem_spelling (key : Key) : '\n' ∉ key.spelling.toList := by
  revert key
  decide

@[simp] theorem NumberKey.newline_not_mem_spelling (key : NumberKey) :
    '\n' ∉ key.spelling.toList := Key.newline_not_mem_spelling (.number key)

@[simp] theorem Setting.newline_not_mem_countLimit (key : NumberKey) (n : UInt32) :
    '\n' ∉ (Setting.Fault.countLimit key n).message.toList := by
  unfold Setting.Fault.message
  simp

theorem Setting.newline_not_mem_fault {key value : String} {fault : Setting.Fault}
    (h : '\n' ∉ value.toList) (refused : Setting.read key value = .error fault) :
    '\n' ∉ fault.message.toList := by
  unfold Setting.read at refused
  split at refused
  · cases refused
  · cases refused
  · split at refused
    · rename_i invalid
      have shown := Decimal.newline_not_mem_fault h invalid
      cases refused
      unfold Setting.Fault.message
      simp [h, shown]
    · split at refused
      · cases refused
        exact Setting.newline_not_mem_countLimit _ _
      · cases refused

/-! ## Lines of files -/

variable {p : Path} {m : Machine} {e : Event}

theorem Line.mem_of_mem_normalize {text : List Char} {c : Char} (mem : c ∈ Line.normalize text) :
    c ∈ text :=
  (List.takeWhile_sublist _).subset (Text.mem_of_mem_trim mem)

theorem Line.mem_of_split? {text key value : List Char} {c : Char}
    (split : Line.split? (Line.normalize text) = some (key, value)) (mem : c ∈ key ∨ c ∈ value) :
    c ∈ text := by
  obtain ⟨before, gap, after, whole, -⟩ := Line.pair_of_split? split
  apply (List.takeWhile_sublist _).subset
  rw [whole]
  obtain mem | mem := mem <;> simp [mem]

namespace Line

theorem newline_not_mem_ofPair {key value : String} (h : '\n' ∉ p.display.toList)
    (plainKey : '\n' ∉ key.toList) (plainValue : '\n' ∉ value.toList)
    (said : (Line.ofPair key value).event? p = some e) : '\n' ∉ e.message.toList := by
  unfold Line.ofPair at said
  split at said
  · cases said
    simp [Event.debug, h, plainKey, plainValue]
  · cases said
  · rename_i fault refused
    have shown := Setting.newline_not_mem_fault plainValue refused
    cases fault with
    | countLimit =>
      cases said
      simp [Event.error, h]
    | invalidValue =>
      cases said
      simp [Event.debug, h, shown]

theorem newline_not_mem_ofText {text : List Char} (h : '\n' ∉ p.display.toList)
    (plain : '\n' ∉ text) (said : (Line.ofText text).event? p = some e) :
    '\n' ∉ e.message.toList := by
  unfold Line.ofText at said
  split at said
  · cases said
  · split at said
    · cases said
      have bare : '\n' ∉ Line.normalize text := fun mem => plain (Line.mem_of_mem_normalize mem)
      simp [Event.debug, bare]
    · rename_i key value split
      refine newline_not_mem_ofPair h ?_ ?_ said
      · rw [String.toList_ofList]
        exact fun mem => plain (Line.mem_of_split? split (.inl mem))
      · rw [String.toList_ofList]
        exact fun mem => plain (Line.mem_of_split? split (.inr mem))

/-- Whatever stands on a line of a file, its event shows no line feed if the path of the file
does not. -/
theorem newline_not_mem_event {octets : Octets} (h : '\n' ∉ p.display.toList)
    (single : Line.feed ∉ octets) (said : (Line.ofOctets octets).event? p = some e) :
    '\n' ∉ e.message.toList := by
  unfold Line.ofOctets at said
  split at said
  · cases said
    simp [Event.debug, h]
  · split at said
    · cases said
      simp [Event.debug, h]
    · rename_i text read
      refine newline_not_mem_ofText h ?_ said
      intro mem
      have octet := Utf8.mem_of_mem_decode read mem (by decide) (by decide)
      exact single ((List.takeWhile_sublist _).subset octet)

end Line

/-! ## Files -/

/-- No event shows a line feed. -/
def Event.Plain (events : List Event) : Prop := ∀ e ∈ events, '\n' ∉ e.message.toList

namespace Event.Plain

variable {es es' : List Event} {label message : String}

theorem nil : Plain [] := fun _ mem => absurd mem List.not_mem_nil

theorem append (h : Plain es) (h' : Plain es') : Plain (es ++ es') :=
  List.forall_mem_append.mpr ⟨h, h'⟩

theorem cons (first : '\n' ∉ e.message.toList) (rest : Plain es) : Plain (e :: es) :=
  List.forall_mem_cons.mpr ⟨first, rest⟩

theorem single (h : '\n' ∉ e.message.toList) : Plain [e] := cons h nil

end Event.Plain

theorem Source.check_of_badPath {fault : Path.Fault} (bad : Source.of m p = .badPath fault) :
    p.check = .error fault := by
  unfold Source.of at bad
  split at bad
  · rename_i invalid
    cases bad
    exact invalid
  · split at bad
    · cases bad
    · cases bad
    · rename_i file _
      have opened := Loading.wasOpened_ofOpenFile file
      rw [bad] at opened
      cases opened

theorem Source.newline_not_mem_badPathEvent {fault : Path.Fault} (h : Line.feed ∉ p.octets)
    (invalid : p.check = .error fault) : '\n' ∉ (Source.badPathEvent fault).message.toList := by
  have shown := Path.newline_not_mem_fault h invalid
  simp [Source.badPathEvent, Event.error, shown]

theorem Source.newline_not_mem_verdict (m : Machine) (h : Line.feed ∉ p.octets) :
    '\n' ∉ ((Source.of m p).verdict p).message.toList := by
  have shown := Path.newline_not_mem_display h
  cases source : Source.of m p with
  | badPath fault => exact Source.newline_not_mem_badPathEvent h (Source.check_of_badPath source)
  | missing => simp [Source.verdict, Event.debug, shown]
  | notOpened error => simp [Source.verdict, Event.error, shown]
  | noStatus error => simp [Source.verdict, Event.error, shown]
  | untrusted violation => simp [Source.verdict, Event.error, shown]
  | notRead error => simp [Source.verdict, Event.error, shown]
  | tooLarge => simp [Source.verdict, Event.error, shown]
  | taken contents => simp [Source.verdict, Event.debug, shown]

theorem Yield.plain_ofFile (m : Machine) (h : Line.feed ∉ p.octets) :
    Event.Plain (Yield.ofFile m p).events := by
  have shown := Path.newline_not_mem_display h
  have lines : Event.Plain ((Source.of m p).lines.filterMap (Line.event? p)) := by
    intro e mem
    obtain ⟨line, mem, said⟩ := List.mem_filterMap.mp mem
    unfold Source.lines at mem
    split at mem
    · obtain ⟨octets, cut, rfl⟩ := List.mem_map.mp mem
      exact Line.newline_not_mem_event shown (Octets.not_mem_of_mem_splitOn cut) said
    · cases mem
  apply Event.Plain.append
  · split
    · apply Event.Plain.single
      simp [Event.debug, shown]
    · exact .nil
  · exact .cons (Source.newline_not_mem_verdict m h) lines

theorem Yield.plain_join {ι : Type} {f : ι → Yield} {is : List ι}
    (each : ∀ i ∈ is, Event.Plain (f i).events) : Event.Plain (Yield.join (is.map f)).events := by
  intro e mem
  obtain ⟨y, listed, mem⟩ := List.mem_flatMap.mp mem
  obtain ⟨i, member, rfl⟩ := List.mem_map.mp listed
  exact each i member e mem

/-! ## The directory -/

namespace Loading

variable {directory : Path} {name : Octets} {names : List Octets}

theorem newline_not_mem_hazard {hazard : String} (h : Fragment.hazard? name = some hazard) :
    '\n' ∉ hazard.toList := by
  unfold Fragment.hazard? at h
  repeat' split at h
  · cases h
    decide
  · cases h
    decide
  · cases h

theorem plain_fragment (m : Machine) (h : Line.feed ∉ directory.octets)
    (h' : Line.feed ∉ name) : Event.Plain (fragment m directory name).events := by
  have shown := Utf8.newline_not_mem_lossy h'
  have child := Path.feed_not_mem_child h h'
  have shownChild := Path.newline_not_mem_display child
  unfold fragment
  split
  · rename_i hazard found
    have word := newline_not_mem_hazard found
    apply Event.Plain.single
    simp [Event.debug, shown, word]
  · dsimp only
    split
    · rename_i fault invalid
      exact .single (Source.newline_not_mem_badPathEvent child invalid)
    · refine .append (.single ?_) (Yield.plain_ofFile m child)
      simp [Event.debug, shownChild]

theorem plain_listed (m : Machine) (h : Line.feed ∉ directory.octets)
    (h' : ∀ name ∈ names, Line.feed ∉ name) : Event.Plain (listed m directory names).events := by
  have shown := Path.newline_not_mem_display h
  refine .append (.append ?_ ?_) (Yield.plain_join ?_)
  · intro e mem
    obtain ⟨name, member, rfl⟩ := List.mem_map.mp mem
    have shownName := Utf8.newline_not_mem_lossy (h' name (List.mem_filter.mp member).1)
    simp [Event.debug, shownName]
  · split
    · exact .nil
    · apply Event.Plain.single
      simp [Event.debug, shown]
  · intro name member
    have member : name ∈ names := (List.mem_filter.mp (List.mem_mergeSort.mp member)).1
    exact plain_fragment m h (h' name member)

/-- No name that is listed in the directory holds a line feed. -/
def PlainNames (m : Machine) (directory : Path) : Prop :=
  ∀ names, m.list directory = .ok names → ∀ name ∈ names, Line.feed ∉ name

theorem plain_scanned (m : Machine) (h : Line.feed ∉ directory.octets)
    (h' : PlainNames m directory) : Event.Plain (scanned m directory).2 ∧
      ∀ y, (scanned m directory).1 = .ok y → Event.Plain y.events := by
  have shown := Path.newline_not_mem_display h
  have scan : Event.Plain [.debug "config_dir_scan"
      s!"scanning config directory: {directory.display}"] := by
    apply Event.Plain.single
    simp [Event.debug, shown]
  unfold scanned
  split
  · refine ⟨scan, ?_⟩
    rintro y ⟨⟩
    exact .nil
  · refine ⟨scan, ?_⟩
    rintro y ⟨⟩
  · rename_i names list
    refine ⟨scan, ?_⟩
    rintro y ⟨⟩
    exact plain_listed m h (h' names list)

theorem plain_fromDirectory (m : Machine) (h : Line.feed ∉ directory.octets)
    (h' : PlainNames m directory) : Event.Plain (fromDirectory m directory).2 ∧
      ∀ y, (fromDirectory m directory).1 = .ok y → Event.Plain y.events := by
  have shown := Path.newline_not_mem_display h
  unfold fromDirectory
  split
  · exact ⟨.nil, by rintro y ⟨⟩⟩
  split
  · refine ⟨.single ?_, ?_⟩
    · simp [Event.debug, shown]
    · rintro y ⟨⟩
      exact .nil
  · exact ⟨.nil, by rintro y ⟨⟩⟩
  split
  · refine ⟨.single ?_, by rintro y ⟨⟩⟩
    simp [Event.error, shown]
  · exact plain_scanned m h h'

/-! ## Loading -/

theorem plain_trace (c : Configuration) : Event.Plain (trace c) := by
  intro e mem
  obtain ⟨key, -, rfl⟩ := List.mem_map.mp mem
  have value : '\n' ∉ (c.valueText key).toList := by
    cases key with
    | number key => exact Text.newline_not_mem_toString (c.number key)
    | switch key =>
      show '\n' ∉ (Switch.word (c.switch key)).toList
      cases c.switch key <;> decide
  simp [Event.debug, value]

/-- Where no path and no name holds a line feed, nothing that is told of a loading shows one,
whatever is in the files. -/
theorem plain_run {sources : Sources} (m : Machine) (files : ∀ p ∈ sources.files, Line.feed ∉ p.octets)
    (directory : Line.feed ∉ sources.directory.octets)
    (names : PlainNames m sources.directory) : Event.Plain (run m sources).events := by
  obtain ⟨told, given⟩ := plain_fromDirectory m directory names
  have fromFiles : Event.Plain (fromFiles m sources.files).events :=
    Yield.plain_join fun p mem => Yield.plain_ofFile m (files p mem)
  have begun : Event.Plain (Event.debug "config_defaults" "loading configuration (defaults set)" ::
      trace .default) := .cons (by decide) (plain_trace _)
  unfold run
  rcases gathered : fromDirectory m sources.directory with ⟨fault | y, events⟩
  · rw [gathered] at told
    exact (begun.append fromFiles).append told
  · rw [gathered] at told given
    have loaded : Event.Plain (Event.debug "config_loaded" "effective configuration" ::
        trace (Configuration.default.setAll
          ((Loading.fromFiles m sources.files).settings ++ y.settings))) :=
      .cons (by decide) (plain_trace _)
    exact (((begun.append fromFiles).append told).append (given y rfl)).append loaded

end Loading

end SubordinateIds
