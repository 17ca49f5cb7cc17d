import SubordinateIds.Proofs.Shell.Commands
import SubordinateIds.Shell.Filters

/-
  Programs — the courses of the programs that read and write

  A program that is a filter is steady, whatever its words are (`steady_of_mem_filters`). It
  reads files and the input, and writes the output. To read a file leaves the ledger as it is,
  and to write one adds a text to it, so all that is left to see is in which order that is done.
-/

namespace SubordinateIds.Shell

variable {st st' : State}

/-! ## Files and streams -/

theorem ledger_of_readFile {text : String} {contents : List Char}
    (h : st.readFile text = .ok (contents, st')) : st'.ledger = st.ledger := by
  unfold State.readFile at h
  cases found : st.resolve text with
  | error e =>
    rw [found] at h
    cases h
  | ok place =>
    rw [found] at h
    simp only [bind, Except.bind] at h
    split at h
    · cases h
      exact ledger_withText st _ []
    · cases opened : st.files.openFile (st.path text) with
      | error e =>
        rw [opened] at h
        cases h
      | ok file =>
        rw [opened] at h
        dsimp only at h
        split at h <;> cases h
        rfl

theorem ledger_of_readScript {path : String} {contents : List Char}
    (h : st.readScript path = .ok (contents, st')) : st'.ledger = st.ledger := by
  unfold State.readScript at h
  split at h
  · cases h
    rfl
  · exact ledger_of_readFile h

theorem steady_writeAt (stream : Nat) (place : List Octets) (contents : List Char) :
    Steady (writeAt stream place contents) := by
  refine .modify fun st => ?_
  rw [ledger_withHome]
  exact grows_withNewText { st with homes := (st.texts.length, place) :: st.homes } stream .writing
    contents

theorem steady_openFound (stream : Nat) (direction : Direction) (place : List Octets)
    (node : FileTree.Node) : Steady (openFound stream direction place node) := by
  have turned (channel : Channel) : Steady (modify fun st => st.withChannel stream channel) :=
    .modify fun st => .refl st.ledger
  cases node with
  | directory mode => exact .ite (turned _) steady_fault
  | file mode contents =>
    refine Steady.get_bind fun st => ?_
    apply Course.unless
    intro _
    cases direction with
    | write | replace => exact steady_writeAt _ _ _ st
    | append => exact steady_writeAt _ _ _ st
    | _ => exact .of_modify (grows_withNewText ..)
  | device mode => exact .ite steady_fault (turned _)
  | socket mode => exact steady_fault
  | fifo mode => exact turned _
  | link target => exact turned _

theorem steady_openStream (stream : Nat) (direction : Direction) (target : String) :
    Steady (openStream stream direction target) := by
  unfold openStream
  apply Steady.get_bind
  intro st
  split
  · apply Course.unless
    intro _
    apply Course.unless
    intro _
    split
    · exact .of_set (.refl _)
    · exact steady_openFound _ _ _ _ st
  · apply Course.unless
    intro _
    split
    · split
      · apply Course.unless
        intro _
        exact steady_writeAt _ _ _ st
      · exact steady_fault st
    · exact steady_fault st
  · exact steady_fault st

theorem steady_copyStream (stream : Nat) (target : String) : Steady (copyStream stream target) := by
  unfold copyStream
  apply Steady.get_bind
  intro st
  refine .ite (fun _ => .of_set (.refl _)) fun _ => ?_
  apply Course.unless
  intro _
  exact .of_set (.refl _)

theorem le_foldl_add (times : List Nat) (now : Nat) :
    now ≤ times.foldl (fun now time => now + time) now := by
  induction times generalizing now with
  | nil => exact Nat.le_refl now
  | cons time times ih => exact Nat.le_trans (Nat.le_add_right now time) (ih _)

theorem steady_sleep (words : List String) : Steady (sleep words) := by
  unfold sleep
  extract_lets times
  split
  · exact steady_leaveStatus 1
  · exact steady_leaveStatus _
  · refine Steady.bind (.modify fun st => ?_) fun _ => steady_leaveStatus 0
    exact { Ledger.Grows.refl st.ledger with now := le_foldl_add _ st.now }

theorem steady_copyFiles (words : List String) : Steady (copyFiles words) := by
  unfold copyFiles
  refine (steady_leaveStatus 0).bind fun _ => .forM ?_ _
  intro word
  apply Steady.get_bind
  intro st
  refine .ite (fun _ => ?_) fun _ => ?_
  · refine .set_bind (.of_eq (ledger_withInput ..)) ?_
    refine .ite_bind (steady_leaveStatus 1 _) fun _ => (steady_write _ _).bind fun written => ?_
    exact .ite (steady_leaveStatus 1) (.pure _)
  · split
    · rename_i read
      refine .set_bind (.of_eq (ledger_of_readFile read)) ?_
      refine (steady_write _ _ _).bind fun written => .ite (steady_leaveStatus 1) (.pure _)
    · exact steady_leaveStatus 1 st

namespace Filter

theorem steady_contents? (word : String) : Steady (contents? word) := by
  unfold contents?
  apply Steady.get_bind
  intro st
  refine .ite (fun _ => .set_bind (.of_eq (ledger_withInput ..)) (.of_pure _)) fun _ => ?_
  split
  · rename_i read
    exact .set_bind (.of_eq (ledger_of_readFile read)) (.of_pure _)
  · exact .of_pure _

theorem steady_sources (words : List String) : Steady (sources words) :=
  .mapM (fun word => (steady_contents? word).bind fun _ => .pure _) _

theorem steady_filter {act : Action} (each : ∀ options words, Steady (act options words))
    (plain valued : String) (misuse : Nat) (words : List String) :
    Steady (filter plain valued misuse act words) := by
  unfold filter
  split
  · exact each _ _
  · exact steady_leaveStatus misuse

theorem steady_through (whole : Bool) (change : List (List Char) → String) (words : List String) :
    Steady (through whole change words) :=
  (steady_sources words).bind fun _ =>
    .ite (steady_say _ 0) (.ite (steady_leaveStatus 2) (steady_say _ 1))

theorem steady_search (extended plain : Bool) (options : List (Char × String))
    (words : List String) : Steady (search extended plain options words) := by
  unfold search
  extract_lets
  split
  split
  · exact steady_leaveStatus 2
  · exact steady_leaveStatus 2
  · refine (steady_sources _).bind fun found => ?_
    refine Steady.bind (.forIn ?_ _ _) fun _ => steady_say _ _
    rintro ⟨name, contents⟩ shown
    -- a file adds to what is shown, by the options, and nothing is done before the end
    refine .ite ?_ ?_
    all_goals exact .ite (.ite (.pure _) (.ite (.pure _) (.pure _))) (.pure _)

theorem steady_count (options : List (Char × String)) (words : List String) :
    Steady (count options words) :=
  .get_bind fun st => (steady_sources words st).bind fun _ => steady_say _ _

theorem steady_edge (atEnd : Bool) (options : List (Char × String)) (words : List String) :
    Steady (edge atEnd options words) := by
  refine (steady_sources words).bind fun found => ?_
  dsimp only
  split
  · exact steady_leaveStatus 1
  · exact steady_say _ _

theorem steady_sort (options : List (Char × String)) (words : List String) :
    Steady (sort options words) := steady_through _ _ _

theorem steady_unique (options : List (Char × String)) (words : List String) :
    Steady (unique options words) := steady_through _ _ _

theorem steady_cut (options : List (Char × String)) (words : List String) :
    Steady (cut options words) := by
  unfold cut
  extract_lets fields
  split
  · exact steady_leaveStatus 1
  · exact steady_through _ _ _

theorem steady_translate (options : List (Char × String)) (words : List String) :
    Steady (translate options words) := by
  unfold translate
  apply Steady.get_bind
  intro st
  dsimp only
  split
  · exact steady_leaveStatus 1 st
  · refine .ite (fun _ => steady_leaveStatus 1 st) fun _ => ?_
    exact .set_bind (.of_eq (ledger_withInput ..)) (steady_say _ _ _)

theorem steady_environment (options : List (Char × String)) (words : List String) :
    Steady (environment options words) :=
  .get_bind fun st => .ite (fun _ => steady_say _ 0 st) fun _ => steady_say _ _ st

theorem steady_showSeries (first step last : Int) : Steady (showSeries first step last) :=
  steady_say _ 0

theorem steady_series (words : List String) : Steady (series words) := by
  unfold series
  split
  · exact steady_showSeries _ _ _
  · exact steady_showSeries _ _ _
  · exact .ite (steady_leaveStatus 1) (steady_showSeries _ _ _)
  · exact steady_leaveStatus 1

theorem steady_lastName (words : List String) : Steady (lastName words) := by
  unfold lastName
  split
  · exact steady_leaveStatus 1
  · exact .ite (steady_leaveStatus 1) (steady_say _ 0)

theorem steady_withoutLast (words : List String) : Steady (withoutLast words) :=
  .ite (steady_leaveStatus 1) (steady_say _ 0)

theorem steady_copyTo (options : List (Char × String)) (words : List String) :
    Steady (copyTo options words) := by
  unfold copyTo
  apply Steady.get_bind
  intro st
  refine .set_bind (.of_eq (ledger_withInput ..)) (.bind (steady_say _ _ _) fun _ => .forM ?_ words)
  intro word
  refine .tryCatch ?_ fun _ st _ => steady_leaveStatus 1 st
  exact (steady_openStream _ _ _).bind fun _ => (steady_write _ _).discard

theorem steady_reckon (words : List String) : Steady (reckon words) := by
  unfold reckon
  extract_lets words'
  split
  · exact steady_say _ _
  · exact steady_leaveStatus 2

theorem steady_showDirectory (words : List String) : Steady (Filter.showDirectory words) :=
  .ite (steady_say _ 0) (.ite (steady_leaveStatus 1) (.get_bind fun st => steady_say _ 0 st))

end Filter

open SubordinateIds.Shell.Filter in
/-- Whatever the words after it are, a program that is a filter is steady. -/
theorem steady_of_mem_filters {e : String × (List String → Run Unit)} (mem : e ∈ filters)
    (words : List String) : Steady (e.2 words) := by
  revert e
  simp only [filters, List.forall_mem_cons, List.not_mem_nil, false_imp_iff, implies_true, and_true]
  exact ⟨steady_filter (steady_search _ _) _ _ _ _, steady_filter (steady_search _ _) _ _ _ _,
    steady_filter (steady_search _ _) _ _ _ _, steady_filter steady_count _ _ _ _,
    steady_filter (steady_edge _) _ _ _ _, steady_filter (steady_edge _) _ _ _ _,
    steady_filter steady_sort _ _ _ _, steady_filter steady_unique _ _ _ _,
    steady_filter steady_cut _ _ _ _, steady_filter steady_translate _ _ _ _,
    steady_filter steady_environment _ _ _ _, steady_series words, steady_lastName words,
    steady_withoutLast words, steady_filter (fun _ => steady_copyFiles) _ _ _ _, steady_sleep words,
    Filter.steady_showDirectory words, steady_reckon words, steady_filter steady_copyTo _ _ _ _⟩

end SubordinateIds.Shell
