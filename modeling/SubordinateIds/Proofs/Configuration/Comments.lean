import Mathlib.Data.List.Forall2
import Mathlib.Data.List.TakeWhile
import SubordinateIds.Proofs.Acts
import SubordinateIds.Proofs.Configuration.Trust
import SubordinateIds.Proofs.Configuration.Wholeness

/-
  Comments — what stands behind a `#` does not count

  A comment is dropped twice: as octets, before a line is read as text, and again as text.
  The two agree since no character but `#` has its octet in its encoding, so a text that is
  cut at the octet is cut at the character (`Utf8.upTo_encode`).

  So lines that differ in their comments only say the same, whether or not a comment is
  UTF-8 at all (`Line.Recommented.ofOctets_eq`). And files whose lines do so give the same: both
  are opened, checked and read alike, up to what is in them (`Machine.Recommented.source_cases`).
  For that they must not be told apart by a failure to read them, so where reading fails it
  has to fail in both of them or beyond the end of both.
-/

namespace SubordinateIds

/-! ## Cutting octets and cutting text -/

namespace Utf8

theorem Sequence.one_or_high {n : Nat} {bs : Octets} (h : Sequence n bs) :
    (∃ a, bs = [a] ∧ n = a.toNat) ∨ ∀ b ∈ bs, 0x80 ≤ b.toNat := by
  cases h with
  | one first value => exact .inl ⟨_, rfl, value⟩
  | @two a b first second value =>
    have lead : 0x80 ≤ a.toNat := by omega
    exact .inr (by simp [lead, second.1])
  | @three a b c first second long scalar third value =>
    have lead : 0x80 ≤ a.toNat := by omega
    exact .inr (by simp [lead, second.1, third.1])
  | @four a b c d first second long scalar third fourth value =>
    have lead : 0x80 ≤ a.toNat := by omega
    exact .inr (by simp [lead, second.1, third.1, fourth.1])

theorem hash_not_mem_encodeChar {c : Char} (other : c ≠ '#') :
    Line.hash ∉ String.utf8EncodeChar c := by
  intro mem
  rcases (sequence_encode c).one_or_high with ⟨a, single, value⟩ | high
  · rw [single, List.mem_singleton] at mem
    rw [← mem] at value
    exact other (Char.toNat_inj.mp value)
  · exact absurd (high _ mem) (by decide)

theorem upTo_encode (cs : List Char) :
    Octets.upTo Line.hash (encode cs) = encode (cs.takeWhile (· != '#')) := by
  induction cs with
  | nil => rfl
  | cons c cs ih =>
    rw [Octets.upTo] at ih ⊢
    by_cases hash : c = '#'
    · subst hash
      rfl
    · have plain : ∀ b ∈ String.utf8EncodeChar c, (b != Line.hash) = true := by
        intro b mem
        rw [bne_iff_ne]
        exact fun same => hash_not_mem_encodeChar hash (same ▸ mem)
      rw [encode_cons, List.takeWhile_append_of_pos plain, ih,
        List.takeWhile_cons_of_pos (by simpa using hash), encode_cons]

end Utf8

/-! ## Lines -/

namespace Line

/-- The lines are the same, or they differ behind their first `#` only and neither of them is
too long. -/
inductive Recommented : Octets → Octets → Prop where
  | same (line : Octets) : Recommented line line
  | changed {before comment comment' : Octets} (first : 0x23 ∉ before)
      (short : (before ++ 0x23 :: comment).length ≤ 1024)
      (short' : (before ++ 0x23 :: comment').length ≤ 1024) :
      Recommented (before ++ 0x23 :: comment) (before ++ 0x23 :: comment')

theorem upTo_hash {before : Octets} (first : 0x23 ∉ before) (comment : Octets) :
    Octets.upTo hash (before ++ 0x23 :: comment) = before := by
  have plain : ∀ b ∈ before, (b != hash) = true := by
    intro b mem
    rw [bne_iff_ne]
    intro same
    subst same
    exact first mem
  rw [Octets.upTo, List.takeWhile_append_of_pos plain, List.takeWhile_cons_of_neg (by decide),
    List.append_nil]

/-- What a line says that is not too long. -/
theorem ofOctets_of_short {line : Octets} (short : line.length ≤ 1024) :
    ofOctets line = ((Utf8.decode? (Octets.upTo hash line)).map ofText).getD .undecodable := by
  have within : ¬line.length > lengthLimit := Nat.not_lt.mpr short
  rw [ofOctets, if_neg within]
  cases Utf8.decode? (Octets.upTo hash line) <;> rfl

theorem Recommented.ofOctets_eq {line line' : Octets} (h : Recommented line line') :
    ofOctets line = ofOctets line' := by
  cases h with
  | same line => rfl
  | changed first short short' =>
    rw [ofOctets_of_short short, ofOctets_of_short short', upTo_hash first, upTo_hash first]

theorem ofContents_eq {contents contents' : Octets}
    (lines : List.Forall₂ Recommented (List.splitOn 0x0a contents) (List.splitOn 0x0a contents')) :
    ofContents contents = ofContents contents' := by
  have feed : feed = 0x0a := rfl
  rw [ofContents, ofContents, Octets.splitOn_eq, Octets.splitOn_eq, feed]
  generalize List.splitOn 0x0a contents = pieces at lines
  generalize List.splitOn 0x0a contents' = pieces' at lines
  induction lines with
  | nil => rfl
  | cons first _ ih => rw [List.map_cons, List.map_cons, first.ofOctets_eq, ih]

variable {line : Octets} {text : List Char}

theorem normalize_takeWhile (text : List Char) :
    normalize (text.takeWhile (· != '#')) = normalize text := by
  rw [normalize, normalize, List.takeWhile_idem]

theorem ofText_takeWhile (text : List Char) : ofText (text.takeWhile (· != '#')) = ofText text := by
  rw [ofText, ofText, normalize_takeWhile]

theorem decode?_upTo_hash (read : Utf8.decode? line = some text) :
    Utf8.decode? (Octets.upTo hash line) = some (text.takeWhile (· != '#')) := by
  rw [Utf8.decode?_eq_some_iff] at read ⊢
  rw [← read, Utf8.upTo_encode]

/-- A line that is a text, and is not too long, says what the whole text says. -/
theorem ofOctets_eq_ofText (read : Utf8.decode? line = some text) (short : line.length ≤ 1024) :
    ofOctets line = ofText text := by
  rw [ofOctets_of_short short, decode?_upTo_hash read, Option.map_some, Option.getD_some,
    ofText_takeWhile]

end Line

/-! ## Files -/

namespace Machine

/-- The entries are the same, or they are files within 1 MiB that differ in their comments
only. Reading them can fail: then it fails in both of them or beyond the end of both. -/
inductive Entry.Recommented (failure : Option (Nat × SystemError)) : Entry → Entry → Prop where
  | same (e : Entry) : Recommented failure e e
  | file {status : FileStatus} {contents contents' : Octets}
      (lines : List.Forall₂ Line.Recommented (List.splitOn 0x0a contents)
        (List.splitOn 0x0a contents'))
      (small : contents.length ≤ 1048576) (small' : contents'.length ≤ 1048576)
      (reading : ∀ n error, failure = some (n, error) →
        (n ≤ contents.length ↔ n ≤ contents'.length)) :
      Recommented failure (.file status contents) (.file status contents')

/-- The machines differ in nothing but the comments in files. -/
structure Recommented (m m' : Machine) : Prop where
  frame : m' = { m with entries := m'.entries }
  entries : ∀ p, Agree (Entry.Recommented ((m.troubles.get? p).bind (·.read)))
    (m.entry p) (m'.entry p)

end Machine

namespace Source

/-- Of two files that can be read alike the same becomes, but for what is in them. -/
theorem ofOpenFile_cases {file file' : OpenFile} (status : file.status = file'.status)
    (failure : file.readTrouble = file'.readTrouble)
    (small : file.contents.length ≤ 1048576) (small' : file'.contents.length ≤ 1048576)
    (reading : ∀ n error, file.readTrouble = some (n, error) →
      (n ≤ file.contents.length ↔ n ≤ file'.contents.length)) :
    ofOpenFile file = ofOpenFile file' ∨
      ofOpenFile file = .taken file.contents ∧ ofOpenFile file' = .taken file'.contents := by
  cases asked : file.status with
  | error error =>
    rw [asked] at status
    simp only [ofOpenFile, asked, ← status, true_or]
  | ok known =>
    have asked' : file'.status = .ok known := by rw [← status, asked]
    cases checked : known.checkFile with
    | error violation => simp only [ofOpenFile, asked, asked', checked, true_or]
    | ok =>
      by_cases whole : file.Whole
      · have whole' : file'.Whole := by
          refine ⟨small', fun n error trouble => ?_⟩
          rw [← failure] at trouble
          have late := whole.late n error trouble
          have same := reading n error trouble
          omega
        refine .inr ⟨ofOpenFile_eq_taken_iff.mpr ?_, ofOpenFile_eq_taken_iff.mpr ?_⟩
        · exact ⟨known, asked, checked, rfl, small, whole.late⟩
        · exact ⟨known, asked', checked, rfl, small', whole'.late⟩
      · obtain ⟨error, broken⟩ := OpenFile.exists_breaks small whole
        have broken' : file'.Breaks error := by
          obtain ⟨n, trouble, within, early⟩ := broken
          exact ⟨n, failure ▸ trouble, (reading n error trouble).mp within, early⟩
        simp only [ofOpenFile, asked, asked', checked,
          OpenFile.read_sizeLimit_eq_error_iff.mpr broken,
          OpenFile.read_sizeLimit_eq_error_iff.mpr broken', true_or]

end Source

namespace Machine.Recommented

variable {m m' : Machine}

theorem entry_cases (h : m.Recommented m') (p : Path) :
    m.entry p = m'.entry p ∨ ∃ status contents contents',
      Entry.Recommented ((m.troubles.get? p).bind (·.read)) (.file status contents)
        (.file status contents') ∧
      m.entry p = .ok (.file status contents) ∧ m'.entry p = .ok (.file status contents') := by
  have entries := h.entries p
  generalize m.entry p = e at entries
  generalize m'.entry p = e' at entries
  cases entries with
  | error error => exact .inl rfl
  | ok recommented =>
    cases recommented with
    | same e => exact .inl rfl
    | file lines small small' reading =>
      exact .inr ⟨_, _, _, .file lines small small' reading, rfl, rfl⟩

/-- From a path comes the same, or the file is taken from both with other comments in it. -/
theorem source_cases (h : m.Recommented m') (p : Path) :
    Source.of m p = Source.of m' p ∨ ∃ contents contents',
      Source.of m p = .taken contents ∧ Source.of m' p = .taken contents' ∧
      List.Forall₂ Line.Recommented (List.splitOn 0x0a contents) (List.splitOn 0x0a contents') := by
  have troubles : m'.troubles = m.troubles := by rw [h.frame]
  unfold Source.of
  rcases h.entry_cases p with same | ⟨status, contents, contents', recommented, here, there⟩
  · rw [openFile, openFile, troubles, same]
    exact .inl rfl
  -- both files are opened, with one status or none at all, and reading them fails at one place
  let failure := (m.troubles.get? p).bind (·.read)
  obtain ⟨known, opens, opens'⟩ : ∃ known, m.openFile p = .ok ⟨known, contents, failure⟩ ∧
      m'.openFile p = .ok ⟨known, contents', failure⟩ := by
    rw [openFile, openFile, here, there, troubles]
    exact ⟨_, rfl, rfl⟩
  rw [opens, opens']
  cases p.check with
  | error fault => exact .inl rfl
  | ok =>
    cases recommented with
    | same => exact .inl rfl
    | file lines small small' reading =>
      have ends := @Source.ofOpenFile_cases ⟨known, contents, failure⟩ ⟨known, contents', failure⟩
        rfl rfl small small' reading
      exact ends.imp_right fun taken => ⟨contents, contents', taken.1, taken.2, lines⟩

theorem ofFile (h : m.Recommented m') (p : Path) : Yield.ofFile m p = Yield.ofFile m' p := by
  rw [Yield.ofFile, Yield.ofFile]
  rcases h.source_cases p with same | ⟨contents, contents', here, there, lines⟩
  · rw [same]
  · -- of a file that is taken only the lines count
    have said : (Source.taken contents).lines = (Source.taken contents').lines :=
      Line.ofContents_eq lines
    rw [here, there, Yield.ofSource, Yield.ofSource, said]
    rfl

theorem shell (h : m.Recommented m') (p : Path) :
    (m.entry p).map Entry.shell = (m'.entry p).map Entry.shell :=
  (h.entries p).map_eq fun e e' recommented => by cases recommented <;> rfl

theorem loading (h : m.Recommented m') (sources : Sources) :
    Loading.run m sources = Loading.run m' sources := by
  have errors : m'.listingErrors = m.listingErrors := by rw [h.frame]
  exact Loading.run_congr_ofFile h.ofFile (status_congr (h.shell _))
    (list_congr errors.symm (h.shell _))

end Machine.Recommented

namespace Session

/-- What stands in a comment does not count. On machines that differ in the comments of
files only, loading comes to the same: the same configuration or failure, the same events,
and the same paths opened. To cut the comment off as octets, before a line is read as text,
loses nothing: a line that is a text is left as the text up to its first `#`, and that says
what the whole text says. -/
theorem load_recommented (s : Session) (sources : Sources) :
    (∀ m, s.machine.Recommented m →
      ((Session.load sources).run { s with machine := m }).1 = ((Session.load sources).run s).1 ∧
      ((Session.load sources).run { s with machine := m }).2 =
        { ((Session.load sources).run s).2 with machine := m }) ∧
      ∀ (line : Octets) (text : List Char), Utf8.decode? line = some text →
        Utf8.decode? (Octets.upTo Line.hash line) = some (text.takeWhile (· != '#')) ∧
        Line.ofText (text.takeWhile (· != '#')) = Line.ofText text ∧
        (line.length ≤ 1024 → Line.ofOctets line = Line.ofText text) := by
  refine ⟨fun m recommented => ?_, fun line text read => ?_⟩
  · simp only [Act.run_load, loaded, recommented.loading sources, true_and]
  · exact ⟨Line.decode?_upTo_hash read, Line.ofText_takeWhile text, Line.ofOctets_eq_ofText read⟩

/-- A machine with one setting and a note on it. -/
def notepad (note : Octets) : Machine := { Machine.empty with
  entries := .ofList [(.ofString "/etc/login.defs", .ok (.file (.of .regular 0 0o644)
    (Utf8.encode "UID_MIN 500 ".toList ++ 0x23 :: note)))] }

theorem recommented_notepad {note note' : Octets} (plain : 0x0a ∉ note) (plain' : 0x0a ∉ note')
    (short : note.length ≤ 1000) (short' : note'.length ≤ 1000) :
    (notepad note).Recommented (notepad note') where
  frame := rfl
  entries p := by
    have length : (Utf8.encode "UID_MIN 500 ".toList).length = 12 := by decide +kernel
    have flat : 0x0a ∉ Utf8.encode "UID_MIN 500 ".toList := by decide +kernel
    have first : 0x23 ∉ Utf8.encode "UID_MIN 500 ".toList := by decide +kernel
    simp only [Machine.entry, notepad, PathMap.ofList, List.foldl_cons, List.foldl_nil,
      PathMap.get?_insert, PathMap.get?_empty]
    generalize Utf8.encode "UID_MIN 500 ".toList = before at length flat first
    split
    · refine .ok (.file ?_ ?_ ?_ ?_)
      · rw [List.splitOn_eq_singleton (by simp [flat, plain]),
          List.splitOn_eq_singleton (by simp [flat, plain'])]
        refine .cons (.changed first ?_ ?_) .nil
        all_goals simp only [List.length_append, List.length_cons]; omega
      all_goals simp only [List.length_append, List.length_cons]
      · omega
      · omega
      · intro n error fails
        cases fails
    · exact .error _

/-- A note that is no text and holds another setting goes unread, as does one that is text. -/
theorem load_recommented_notepad :
    let note : Octets := Utf8.encode " UID_MIN 7 # ".toList ++ [0xff, 0xc3]
    Utf8.decode? note = none ∧ (notepad []).Recommented (notepad note) ∧
      ((Session.load .standard).run (.start (notepad note) true)).1 =
        .ok { Configuration.default with uidMin := 500 } ∧
      Line.ofOctets (Utf8.encode "UID_MIN 500 # café".toList) =
        .accepted "UID_MIN" "500" (.number .uidMin 500) := by
  intro note
  have recommented : (notepad []).Recommented (notepad note) :=
    recommented_notepad (by decide) (by decide +kernel) (by decide) (by decide +kernel)
  obtain ⟨loads, texts⟩ := load_recommented (.start (notepad []) true) .standard
  refine ⟨by decide +kernel, recommented, (loads _ recommented).1.trans (by decide +kernel), ?_⟩
  have read : Utf8.decode? (Utf8.encode "UID_MIN 500 # café".toList) =
      some "UID_MIN 500 # café".toList := Utf8.decode?_eq_some_iff.mpr rfl
  rw [(texts _ _ read).2.2 (by decide +kernel)]
  decide +kernel

end Session

end SubordinateIds
