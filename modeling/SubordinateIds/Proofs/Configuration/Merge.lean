import SubordinateIds.Proofs.Configuration.Gathering
import SubordinateIds.Proofs.Configuration.Line

/-
  Merging — the last word on a key counts

  A configuration that was loaded is described by what its sources hold, without the
  steps that gather it. `Pieces` says which octets the trusted files are cut into. Of these
  pieces, the last one that offers a value for a key decides the key; if none does, the
  key keeps its default (`LastOr`).

  The reason is that a setting changes its own key and nothing else: `LastOr.foldl` turns
  this one step into the whole fold.
-/

namespace SubordinateIds

/-! ## The last one counts -/

/-- The value is what the last element gives that gives any, and `otherwise` if none does. -/
def LastOr {α β : Type} (gives : α → β → Prop) (otherwise : β) (xs : List α) (value : β) : Prop :=
  (∃ before x after, xs = before ++ x :: after ∧ gives x value ∧ ∀ y ∈ after, ∀ w, ¬gives y w) ∨
    ((∀ x ∈ xs, ∀ w, ¬gives x w) ∧ value = otherwise)

namespace LastOr

variable {α β γ : Type} {gives : α → β → Prop} {otherwise w value : β} {x : α} {xs : List α}

theorem cons_given (given : gives x w) (h : LastOr gives w xs value) :
    LastOr gives otherwise (x :: xs) value := by
  rcases h with ⟨before, y, after, rfl, last, none⟩ | ⟨none, rfl⟩
  · exact .inl ⟨x :: before, y, after, rfl, last, none⟩
  · exact .inl ⟨[], x, xs, rfl, given, none⟩

theorem cons_silent (silent : ∀ w, ¬gives x w) (h : LastOr gives otherwise xs value) :
    LastOr gives otherwise (x :: xs) value := by
  rcases h with ⟨before, y, after, rfl, last, none⟩ | ⟨none, same⟩
  · exact .inl ⟨x :: before, y, after, rfl, last, none⟩
  · exact .inr ⟨List.forall_mem_cons.mpr ⟨silent, none⟩, same⟩

/-- If each step takes what its element gives and otherwise keeps what is there, then what is
there after all steps is what the last element gave. -/
theorem foldl {step : γ → α → γ} (view : γ → β)
    (takes : ∀ c x w, gives x w → view (step c x) = w)
    (keeps : ∀ c x, (∀ w, ¬gives x w) → view (step c x) = view c) (xs : List α) (c : γ) :
    LastOr gives (view c) xs (view (xs.foldl step c)) := by
  induction xs generalizing c with
  | nil => exact .inr ⟨by simp, rfl⟩
  | cons x xs ih =>
    have rest := ih (step c x)
    -- what the others leave open is what this one gave, or what was there before it
    by_cases silent : ∀ w, ¬gives x w
    · rw [keeps c x silent] at rest
      exact cons_silent silent rest
    · simp only [not_forall, not_not] at silent
      obtain ⟨w, given⟩ := silent
      rw [takes c x w given] at rest
      exact cons_given given rest

end LastOr

/-! ## A setting changes its own key -/

namespace Configuration

theorem number_set {c : Configuration} {setting : Setting} {key : NumberKey} :
    (c.set setting).number key =
      match setting with
      | .number k n => if k = key then n else c.number key
      | .switch _ _ => c.number key := by
  cases setting with
  | number k n =>
    rcases k with _ | _ | (_ | _) | (_ | _) | (_ | _) <;>
      rcases key with _ | _ | (_ | _) | (_ | _) | (_ | _) <;> rfl
  | switch k on => cases k <;> rcases key with _ | _ | (_ | _) | (_ | _) | (_ | _) <;> rfl

theorem switch_set {c : Configuration} {setting : Setting} {key : SwitchKey} :
    (c.set setting).switch key =
      match setting with
      | .number _ _ => c.switch key
      | .switch k on => if k = key then on.getD (c.switch key) else c.switch key := by
  cases setting with
  | number k n =>
    rcases k with _ | _ | (_ | _) | (_ | _) | (_ | _) <;> cases key <;> rfl
  | switch k on => cases k <;> cases key <;> rfl

end Configuration

namespace Configuration

/-- The configuration after the settings that lines give. -/
def afterPieces (c : Configuration) (pieces : List Octets) : Configuration :=
  c.setAll (pieces.filterMap fun piece => (Line.ofOctets piece).setting?)

theorem afterPieces_eq_foldl (c : Configuration) (pieces : List Octets) :
    c.afterPieces pieces =
      pieces.foldl (fun c piece => (Line.ofOctets piece).setting?.elim c c.set) c := by
  rw [afterPieces, setAll, List.foldl_filterMap]
  congr 1
  funext c piece
  cases (Line.ofOctets piece).setting? <;> rfl

theorem lastOr_number (key : NumberKey) (c : Configuration) (pieces : List Octets) :
    LastOr (fun piece n => ∃ value, Line.Offers piece key.spelling value ∧ key.Reads value n)
      (c.number key) pieces ((c.afterPieces pieces).number key) := by
  simp only [← Line.gives_number_iff]
  rw [afterPieces_eq_foldl]
  refine LastOr.foldl (number · key) ?_ ?_ pieces c
  · intro c piece n gives
    simp only [gives, Option.elim_some, number_set, if_true]
  · intro c piece silent
    cases said : (Line.ofOctets piece).setting? with
    | none => rfl
    | some setting =>
      rw [said] at silent
      cases setting with
      | number k n =>
        have other : k ≠ key := by
          intro same
          subst same
          exact silent n rfl
        simp only [Option.elim_some, number_set, if_neg other]
      | switch => simp only [Option.elim_some, number_set]

theorem lastOr_switch (key : SwitchKey) (c : Configuration) (pieces : List Octets) :
    LastOr (fun piece on => ∃ value, Line.Offers piece key.spelling value ∧ Switch.Says value on)
      (c.switch key) pieces ((c.afterPieces pieces).switch key) := by
  simp only [← Line.gives_switch_iff]
  rw [afterPieces_eq_foldl]
  refine LastOr.foldl (switch · key) ?_ ?_ pieces c
  · intro c piece on gives
    simp only [gives, Option.elim_some, switch_set, if_true, Option.getD_some]
  · intro c piece silent
    cases said : (Line.ofOctets piece).setting? with
    | none => rfl
    | some setting =>
      rw [said] at silent
      cases setting with
      | number => simp only [Option.elim_some, switch_set]
      | switch k position =>
        cases position with
        | none =>
          -- a word that says nothing leaves the switch where it is
          simp only [Option.elim_some, switch_set, Option.getD_none, ite_self]
        | some on =>
          have other : k ≠ key := by
            intro same
            subst same
            exact silent on rfl
          simp only [Option.elim_some, switch_set, if_neg other]

end Configuration

/-! ## The pieces of the sources -/

/-- The lines of the trusted files at the paths, in order. A file that is not trusted
leaves none. -/
inductive Pieces (m : Machine) : List Path → List Octets → Prop where
  | nil : Pieces m [] []
  | taken {p : Path} {ps : List Path} {contents : Octets} {pieces : List Octets}
      (trusted : Trusted m p contents) (rest : Pieces m ps pieces) :
      Pieces m (p :: ps) (List.splitOn 0x0a contents ++ pieces)
  | left {p : Path} {ps : List Path} {pieces : List Octets}
      (untrusted : ∀ contents, ¬Trusted m p contents) (rest : Pieces m ps pieces) :
      Pieces m (p :: ps) pieces

namespace Loading

variable {m : Machine}

/-- The lines of the file at a path, if it is trusted. -/
def piecesAt (m : Machine) (p : Path) : List Octets :=
  match Source.of m p with
  | .taken contents => List.splitOn 0x0a contents
  | _ => []

theorem pieces_flatMap (m : Machine) (ps : List Path) : Pieces m ps (ps.flatMap (piecesAt m)) := by
  induction ps with
  | nil => exact .nil
  | cons p ps ih =>
    rw [List.flatMap_cons]
    -- a file is taken or not, and nothing else that can happen to it leaves a line
    by_cases trusted : ∃ contents, Trusted m p contents
    · obtain ⟨contents, trusted⟩ := trusted
      rw [piecesAt, Source.of_eq_taken_iff.mpr trusted]
      exact .taken trusted ih
    · have untrusted : ∀ contents, ¬Trusted m p contents := not_exists.mp trusted
      have none : piecesAt m p = [] := by
        unfold piecesAt
        split
        · rename_i contents taken
          exact absurd (Source.of_eq_taken_iff.mp taken) (untrusted contents)
        · rfl
      rw [none, List.nil_append]
      exact .left untrusted ih

theorem settings_ofFile (m : Machine) (p : Path) :
    (Yield.ofFile m p).settings =
      (piecesAt m p).filterMap fun piece => (Line.ofOctets piece).setting? := by
  unfold piecesAt Yield.ofFile Yield.ofSource
  cases Source.of m p with
  | taken contents =>
    simp only [Source.lines, Line.ofContents, List.filterMap_map, Octets.splitOn_eq]
    rfl
  | _ => rfl

theorem run_result_eq_ok {sources : Sources} {c : Configuration}
    (loaded : (run m sources).result = .ok c) :
    ∃ names pieces, Fragments m sources.directory names ∧
      Pieces m (sources.files ++ names.map sources.directory.child) pieces ∧
      c = Configuration.default.afterPieces pieces := by
  obtain ⟨names, y, fragments, sums, rfl⟩ := sums_of_loaded loaded
  refine ⟨names, _, fragments, pieces_flatMap m _, ?_⟩
  rw [sums.settings, Configuration.afterPieces, List.filterMap_flatMap,
    ← funext (settings_ofFile m)]

end Loading

namespace Session

/-- A configuration that is loaded has for each key what the last line says that says
anything of the key, of all lines in the trusted files and fragments; a key of which no
line says anything keeps its default. -/
theorem load_last_wins {s : Session} {sources : Sources} {c : Configuration}
    (loaded : ((Session.load sources).run s).1 = .ok c) :
    ∃ names pieces, Fragments s.machine sources.directory names ∧
      Pieces s.machine (sources.files ++ names.map sources.directory.child) pieces ∧
      (∀ key : NumberKey,
        LastOr (fun piece n => ∃ value, Line.Offers piece key.spelling value ∧ key.Reads value n)
          (Configuration.default.number key) pieces (c.number key)) ∧
      ∀ key : SwitchKey,
        LastOr (fun piece on => ∃ value, Line.Offers piece key.spelling value ∧ Switch.Says value on)
          (Configuration.default.switch key) pieces (c.switch key) := by
  rw [Act.run_load] at loaded
  obtain ⟨names, pieces, fragments, cut, rfl⟩ := Loading.run_result_eq_ok loaded
  refine ⟨names, pieces, fragments, cut, ?_, ?_⟩
  · intro key
    exact Configuration.lastOr_number key .default pieces
  · intro key
    exact Configuration.lastOr_switch key .default pieces

/-- A machine whose settings raise the lowest user id, lower it again, misspell the highest
one and let blocks wrap. -/
def desk : Machine := { Machine.empty with
  entries := PathMap.empty.insert (.ofString "/etc/login.defs") (.ok (.file (.of .regular 0 0o644)
    (Utf8.encode "UID_MIN 2000\nUID_MIN 500 # low\nUID_MAX +9\nALLOW_SUBID_WRAP Yes".toList))) }

/-- The second line decides the lowest user id. -/
theorem load_last_wins_desk :
    ((Session.load .standard).run (.start desk false)).1 =
        .ok { Configuration.default with uidMin := 500, allowWrap := true } ∧
      ∃ names pieces, Fragments desk Sources.standard.directory names ∧
        Pieces desk (Sources.standard.files ++ names.map Sources.standard.directory.child) pieces ∧
        LastOr (fun piece n => ∃ value,
          Line.Offers piece "UID_MIN" value ∧ NumberKey.uidMin.Reads value n) 1000 pieces 500 := by
  have loaded : ((Session.load .standard).run (.start desk false)).1 =
      .ok { Configuration.default with uidMin := 500, allowWrap := true } := by decide +kernel
  obtain ⟨names, pieces, fragments, cut, numbers, -⟩ := load_last_wins loaded
  exact ⟨loaded, names, pieces, fragments, cut, numbers .uidMin⟩

end Session

end SubordinateIds
