import SubordinateIds.Proofs.Shell.Course
import SubordinateIds.Proofs.Shell.Patterns
import SubordinateIds.Shell.Arguments
import SubordinateIds.Shell.Expansion
import SubordinateIds.Shell.Reading
import Mathlib.Data.List.SplitBy

/-
  Words — what quotes keep, and what falls apart without them

  A value outside of quotes falls apart at separators, so none is left in its fields
  (`unseparated_of_mem_fields`). In quotes nothing of this happens: the arguments are passed on
  as they are (`fields_argumentPieces`), and a word of which every character is quoted stands
  for its text alone, whatever is in that: no path, no home directory and no parameter
  (`run_wordFields`).

  So a text can be written in quotes and be read again. `quote` does this in runs, those of
  single quotes in double ones and all others in single ones (`exists_runs_quote`). The reader
  comes to a word of quoted characters, and that stands for the text (`read_quote`).
-/

namespace SubordinateIds.Shell

/-! ## Fields -/

namespace Piece

theorem fields_quoted (separators : List Char) (cs : List Char) (before : List (Char × Bool))
    (rest : List Piece) :
    fields separators (some before) false (cs.map .quoted ++ rest) =
      fields separators (some ((cs.map fun c => (c, false)).reverse ++ before)) false rest := by
  induction cs generalizing before with
  | nil => rfl
  | cons c cs ih =>
    rw [List.map_cons, List.cons_append, fields, Option.getD_some, ih]
    simp

theorem fields_mark (separators cs : List Char) (rest : List Piece) :
    fields separators none false (.mark :: cs.map .quoted ++ rest) =
      fields separators (some (cs.map fun c => (c, false)).reverse) false rest := by
  rw [List.cons_append, fields, Option.getD_none, fields_quoted, List.append_nil]

/-- The arguments in quotes are passed on as they are, the empty ones too. -/
theorem fields_argumentPieces (separators : List Char) (args : List String) :
    fields separators none false (argumentPieces true args) =
      args.map fun arg => arg.toList.map fun c => (c, false) := by
  have one (arg : String) : (.mark :: Piece.ofValue true arg : List Piece) =
      .mark :: arg.toList.map .quoted := rfl
  induction args with
  | nil => rfl
  | cons arg args ih =>
    cases args with
    | nil =>
      have alone : argumentPieces true [arg] = .mark :: arg.toList.map .quoted ++ [] := by
        simp [argumentPieces, one]
      rw [alone, fields_mark]
      simp [fields, field]
    | cons next args =>
      have more : argumentPieces true (arg :: next :: args) =
          .mark :: arg.toList.map .quoted ++ .cut :: argumentPieces true (next :: args) := by
        simp [argumentPieces, one]
      rw [more, fields_mark, fields, ih]
      simp [field]

/-- None of the characters of a field is a separator. -/
def Unseparated (separators : List Char) (chars : List (Char × Bool)) : Prop :=
  ∀ e ∈ chars, e.1 ∉ separators

theorem unseparated_of_mem_field {separators : List Char} {chars : Option (List (Char × Bool))}
    (before : ∀ known ∈ chars, Unseparated separators known) :
    ∀ found ∈ field chars, Unseparated separators found := by
  intro found mem
  obtain ⟨known, there, rfl⟩ := Option.map_eq_some_iff.mp (Option.mem_toList.mp mem)
  intro e within
  exact before known there e (List.mem_reverse.mp within)

/-- In the fields that a value falls apart into there are no separators. -/
theorem unseparated_of_mem_fields {separators value : List Char}
    {chars : Option (List (Char × Bool))} {blank : Bool}
    (before : ∀ known ∈ chars, Unseparated separators known) :
    ∀ found ∈ fields separators chars blank (value.map .found), Unseparated separators found := by
  have collected (chars : Option (List (Char × Bool)))
      (before : ∀ known ∈ chars, Unseparated separators known) :
      Unseparated separators (chars.getD []) := by
    cases chars with
    | none => exact nofun
    | some known => exact before known rfl
  induction value generalizing chars blank with
  | nil => exact unseparated_of_mem_field before
  | cons c value ih =>
    rw [List.map_cons, fields]
    split
    · rename_i plain
      refine ih fun known same => ?_
      cases same
      refine List.forall_mem_cons.mpr ⟨?_, collected chars before⟩
      simpa using plain
    · split
      · exact List.forall_mem_append.mpr ⟨unseparated_of_mem_field before, ih nofun⟩
      · split
        · exact ih nofun
        · refine List.forall_mem_append.mpr
            ⟨unseparated_of_mem_field fun known same => ?_, ih nofun⟩
          cases same
          exact collected chars before

end Piece

/-! ## Words of quoted characters -/

/-- All of a word is quoted, and it stands for a text. -/
inductive Spells : Word → List Char → Prop where
  | nil : Spells [] []
  | mark {word : Word} {cs : List Char} (rest : Spells word cs) : Spells (.mark :: word) cs
  | text (c : Char) {word : Word} {cs : List Char} (rest : Spells word cs) :
    Spells (.text true c :: word) (c :: cs)

namespace Spells

variable {word word' : Word} {cs cs' : List Char}

theorem append (h : Spells word cs) (h' : Spells word' cs') :
    Spells (word ++ word') (cs ++ cs') := by
  induction h with
  | nil => exact h'
  | mark _ ih => exact .mark ih
  | text c _ ih => exact .text c ih

theorem of_chars (cs : List Char) : Spells (cs.map (Part.text true)) cs := by
  induction cs with
  | nil => exact .nil
  | cons c cs ih => exact .text c ih

/-- There is no home directory in quotes. -/
theorem homeParts_eq (h : Spells word cs) (st : State) (everywhere start : Bool) :
    homeParts st everywhere start 0 word = word := by
  induction h generalizing start with
  | nil => cases start <;> rfl
  | mark _ ih =>
    rw [homeParts, ih]
    · exact nofun
    · exact nofun
  | text c _ ih =>
    rw [homeParts, ih]
    · exact nofun
    · exact nofun

/-- The piece that a quoted part becomes. -/
def pieceOf : Part → Piece
  | .text _ c => .quoted c
  | _ => .mark

theorem run_mapM (h : Spells word cs) (script : List Clause → Run String) (depth : Nat)
    (st : State) : (word.mapM (partPieces script (depth + 1))).run st =
      (.ok (word.map fun part => [pieceOf part]), st) := by
  induction h with
  | nil => rfl
  | mark _ ih =>
    rw [List.mapM_cons, run_bind, partPieces]
    show (_ >>= _ : Run (List (List Piece))).run st = _
    rw [run_bind, ih]
    rfl
  | text c _ ih =>
    rw [List.mapM_cons, run_bind, partPieces]
    show (_ >>= _ : Run (List (List Piece))).run st = _
    rw [run_bind, ih]
    rfl

theorem fields_some (h : Spells word cs) (separators : List Char) (before : List (Char × Bool)) :
    Piece.fields separators (some before) false (word.map pieceOf) =
      [before.reverse ++ cs.map fun c => (c, false)] := by
  induction h generalizing before with
  | nil => simp [Piece.fields, Piece.field]
  | mark _ ih =>
    rw [List.map_cons, pieceOf, Piece.fields, Option.getD_some, ih]
    all_goals exact nofun
  | text c _ ih =>
    rw [List.map_cons, pieceOf, Piece.fields, Option.getD_some, ih]
    simp

theorem fields_none (h : Spells word cs) (filled : word ≠ []) (separators : List Char) :
    Piece.fields separators none false (word.map pieceOf) = [cs.map fun c => (c, false)] := by
  cases h with
  | nil => exact absurd rfl filled
  | mark rest =>
    rw [List.map_cons, pieceOf, Piece.fields, Option.getD_none, rest.fields_some]
    · rfl
    all_goals exact nofun
  | text c rest =>
    rw [List.map_cons, pieceOf, Piece.fields, Option.getD_none, rest.fields_some]
    rfl

/-- A word in quotes stands for its text, and nothing is done for that. -/
theorem run_wordFields (h : Spells word cs) (filled : word ≠ [])
    (script : List Clause → Run String) (st : State) :
    (wordFields script word).run st = (.ok [String.ofList cs], st) := by
  unfold wordFields
  rw [run_bind, run_get]
  dsimp only
  rw [h.homeParts_eq, run_bind]
  have found : (pieces script wordDepth word).run st = (.ok (word.map pieceOf), st) := by
    rw [wordDepth, pieces, run_bind, h.run_mapM script 998]
    show (Except.ok _, st) = _
    rw [← List.flatMap_def, ← List.map_eq_flatMap]
  rw [found]
  dsimp only
  rw [run_bind, run_get]
  dsimp only
  rw [h.fields_none filled]
  have text : cs.map ((·.1) ∘ fun c => (c, false)) = cs := List.map_id cs
  simp [pathsLike_quoted, text]
  rfl

end Spells

/-! ## What is written in quotes -/

namespace Reader

/-- What is read of a text, with what is left of it. -/
def outcome {α : Type} (reader : Reader α) (aliases : Aliases) (replaced : List Replaced)
    (cs : List Char) : Option ((α × List Char) × List Replaced) :=
  ((reader.run aliases).run cs).run replaced

variable {aliases : Aliases} {replaced : List Replaced}

theorem outcome_bind {α β : Type} (reader : Reader α) (next : α → Reader β) (cs : List Char) :
    (reader >>= next).outcome aliases replaced cs =
      (reader.outcome aliases replaced cs).bind fun read =>
        (next read.1.1).outcome aliases read.2 read.1.2 := by
  rfl

theorem outcome_guard {p : Prop} [Decidable p] (h : p) (cs : List Char) :
    (guard p : Reader Unit).outcome aliases replaced cs = some (((), cs), replaced) := by
  unfold guard
  rw [if_pos h]
  rfl

theorem outcome_parts_end (fuel : Nat) (acc : Word) {rest : List Char}
    (ends : ∀ c ∈ rest.head?, endsWord c = true) :
    (parts (fuel + 1) .word acc).outcome aliases replaced rest =
      some ((acc.reverse, rest), replaced) := by
  rw [parts, outcome_bind]
  cases rest with
  | nil => rfl
  | cons c rest =>
    show (if (true && endsWord c) = true then _ else _ : Reader Word).outcome _ _ _ = _
    rw [ends c rfl]
    rfl

theorem outcome_singleQuoted {cs : List Char} (unquoted : '\'' ∉ cs) (rest : List Char) :
    singleQuoted.outcome aliases replaced (cs ++ '\'' :: rest) =
      some ((.mark :: cs.map (.text true), rest), replaced) := by
  have plain (c : Char) (mem : c ∈ cs) : (c != '\'') = true := by
    simpa using fun same : c = '\'' => unquoted (same ▸ mem)
  have present : (cs ++ '\'' :: rest).elem '\'' = true := by simp
  rw [singleQuoted, outcome_bind]
  show ((guard _ : Reader Unit) >>= _).outcome _ _ _ = _
  rw [outcome_bind, outcome_guard present]
  show some ((_, _), _) = _
  rw [List.takeWhile_append_of_pos plain, List.dropWhile_append_of_pos plain]
  simp

theorem outcome_parts_opening (fuel : Nat) (acc : Word) (rest : List Char) :
    (parts (fuel + 1) .word acc).outcome aliases replaced ('\'' :: rest) =
      (singleQuoted >>= fun word => parts fuel .word (word.reverse ++ acc)).outcome
        aliases replaced rest := by
  rw [parts, outcome_bind]
  rfl

theorem outcome_parts_openingDouble (fuel : Nat) (acc : Word) (rest : List Char) :
    (parts (fuel + 1) .word acc).outcome aliases replaced ('"' :: rest) =
      (parts fuel .quotes [] >>= fun word =>
        parts fuel .word ((inQuotes word).reverse ++ acc)).outcome aliases replaced rest := by
  rw [parts, outcome_bind]
  rfl

theorem outcome_parts_closingDouble (fuel : Nat) (acc : Word) (rest : List Char) :
    (parts (fuel + 1) .quotes acc).outcome aliases replaced ('"' :: rest) =
      some ((acc.reverse, rest), replaced) := by
  rw [parts, outcome_bind]
  · rfl
  all_goals exact nofun

theorem outcome_parts_quoted (fuel : Nat) (acc : Word) (rest : List Char) :
    (parts (fuel + 1) .quotes acc).outcome aliases replaced ('\'' :: rest) =
      (parts fuel .quotes (.text true '\'' :: acc)).outcome aliases replaced rest := by
  rw [parts, outcome_bind]
  · rfl
  all_goals exact nofun

/-- A text without single quotes, in such quotes. -/
theorem outcome_parts_single (fuel : Nat) (acc : Word) {cs : List Char} (unquoted : '\'' ∉ cs)
    (rest : List Char) :
    (parts (fuel + 1) .word acc).outcome aliases replaced ('\'' :: (cs ++ '\'' :: rest)) =
      (parts fuel .word ((.mark :: cs.map (Part.text true)).reverse ++ acc)).outcome
        aliases replaced rest := by
  rw [outcome_parts_opening, outcome_bind, outcome_singleQuoted unquoted]
  rfl

theorem outcome_parts_quotes (n : Nat) {fuel : Nat} (enough : n < fuel) (acc : Word)
    (rest : List Char) :
    (parts fuel .quotes acc).outcome aliases replaced (List.replicate n '\'' ++ '"' :: rest) =
      some ((acc.reverse ++ List.replicate n (Part.text true '\''), rest), replaced) := by
  induction n generalizing fuel acc with
  | zero =>
    obtain ⟨fuel, rfl⟩ := Nat.exists_eq_succ_of_ne_zero enough.ne'
    rw [List.replicate_zero, List.nil_append, outcome_parts_closingDouble]
    simp
  | succ n ih =>
    obtain ⟨fuel, rfl⟩ := Nat.exists_eq_succ_of_ne_zero (Nat.ne_zero_of_lt enough)
    rw [List.replicate_succ, List.cons_append, outcome_parts_quoted, ih (by omega)]
    simp [List.replicate_succ]

/-- Single quotes alone, in double quotes. -/
theorem outcome_parts_double {n fuel : Nat} (enough : n < fuel) (acc : Word)
    (rest : List Char) :
    (parts (fuel + 1) .word acc).outcome aliases replaced
        ('"' :: (List.replicate n '\'' ++ '"' :: rest)) =
      (parts fuel .word
        ((.mark :: List.replicate n (Part.text true '\'')).reverse ++ acc)).outcome
          aliases replaced rest := by
  have marked : inQuotes (List.replicate n (Part.text true '\'')) =
      .mark :: List.replicate n (Part.text true '\'') := by
    rw [inQuotes]
    intro quoted same
    cases n <;> cases same
  rw [outcome_parts_openingDouble, outcome_bind, outcome_parts_quotes n enough, ← marked]
  rfl

/-- How a run of characters, of quotes alone or without one, is put in quotes. -/
def quotedRun (run : List Char) : List Char :=
  let mark := if run.any (· == '\'') then '"' else '\''
  mark :: run ++ [mark]

/-- A run is of single quotes alone, or without one. -/
def IsUniform (run : List Char) : Prop :=
  '\'' ∉ run ∨ run ≠ [] ∧ ∀ c ∈ run, c = '\''

theorem outcome_parts_quotedRun {run : List Char} (uniform : IsUniform run) {fuel : Nat}
    (enough : run.length < fuel) (acc : Word) (rest : List Char) :
    (parts (fuel + 1) .word acc).outcome aliases replaced (quotedRun run ++ rest) =
      (parts fuel .word ((.mark :: run.map (Part.text true)).reverse ++ acc)).outcome
        aliases replaced rest := by
  obtain unquoted | ⟨filled, quotes⟩ := uniform
  · have mark : run.any (· == '\'') = false := by
      simpa using fun c mem (same : c = '\'') => unquoted (same ▸ mem)
    rw [← outcome_parts_single fuel acc unquoted]
    simp [quotedRun, mark]
  · have mark : run.any (· == '\'') = true := by
      obtain ⟨c, mem⟩ := List.exists_mem_of_ne_nil run filled
      exact List.any_eq_true.mpr ⟨c, mem, by simp [quotes c mem]⟩
    have spelled := List.eq_replicate_of_mem quotes
    have read := @outcome_parts_double aliases replaced run.length fuel enough acc rest
    rw [quotedRun, mark]
    rw [← spelled, ← List.map_replicate, ← spelled] at read
    rw [← read]
    simp

theorem outcome_parts_flatMap {runs : List (List Char)} (uniform : ∀ run ∈ runs, IsUniform run)
    {fuel : Nat} (enough : (runs.flatMap quotedRun).length < fuel) (acc : Word) {rest : List Char}
    (ends : ∀ c ∈ rest.head?, endsWord c = true) :
    (parts fuel .word acc).outcome aliases replaced (runs.flatMap quotedRun ++ rest) =
      some ((acc.reverse ++ runs.flatMap fun run => .mark :: run.map (Part.text true), rest),
        replaced) := by
  induction runs generalizing fuel acc with
  | nil =>
    obtain ⟨fuel, rfl⟩ := Nat.exists_eq_succ_of_ne_zero (Nat.ne_zero_of_lt enough)
    simpa using outcome_parts_end fuel acc ends
  | cons run runs ih =>
    obtain ⟨fuel, rfl⟩ := Nat.exists_eq_succ_of_ne_zero (Nat.ne_zero_of_lt enough)
    obtain ⟨first, others⟩ := List.forall_mem_cons.mp uniform
    have size : (quotedRun run).length = run.length + 2 := by simp [quotedRun]
    rw [List.flatMap_cons, List.length_append, size] at enough
    rw [List.flatMap_cons, List.append_assoc, outcome_parts_quotedRun first (by omega),
      ih others (by omega)]
    simp

theorem isUniform_of_mem_splitBy {text run : List Char}
    (mem : run ∈ text.splitBy fun a b => (a == '\'') == (b == '\'')) : IsUniform run := by
  have filled := List.ne_nil_of_mem_splitBy mem
  have chain := List.isChain_of_mem_splitBy mem
  obtain ⟨first, others, rfl⟩ := List.exists_cons_of_ne_nil filled
  have alike (c : Char) (later : c ∈ others) : (first == '\'') = (c == '\'') := by
    have pairs := List.isChain_iff_pairwise.mp
      (chain.imp (S := fun a b => (a == '\'') = (b == '\'')) fun _ _ => by simp)
    exact List.rel_of_pairwise_cons pairs later
  by_cases quote : first = '\''
  · refine .inr ⟨filled, List.forall_mem_cons.mpr ⟨quote, fun c later => ?_⟩⟩
    simpa [quote] using alike c later
  · refine .inl fun mem => (List.mem_cons.mp mem).elim (fun same => quote same.symm) fun later => ?_
    simpa [quote] using alike _ later

/-- The runs that a text is put in quotes in. An empty one is in front of quotes, so that no
text is without a run. -/
theorem exists_runs_quote (text : String) : ∃ runs : List (List Char),
    (Builtin.quote text).toList = runs.flatMap quotedRun ∧ runs ≠ [] ∧
      runs.flatten = text.toList ∧ ∀ run ∈ runs, IsUniform run := by
  let runs := text.toList.splitBy fun a b => (a == '\'') == (b == '\'')
  have whole : runs.flatten = text.toList := List.flatten_splitBy ..
  have uniform (run : List Char) (mem : run ∈ runs) : IsUniform run := isUniform_of_mem_splitBy mem
  have spelled : (Builtin.quote text).toList =
      (if text.toList.head?.all (· == '\'') then ['\'', '\''] else []) ++
        runs.flatMap quotedRun := String.toList_ofList
  rw [spelled]
  split
  · refine ⟨[] :: runs, rfl, nofun, whole, List.forall_mem_cons.mpr ⟨.inl nofun, uniform⟩⟩
  · rename_i other
    refine ⟨runs, rfl, fun empty => other ?_, whole, uniform⟩
    rw [← whole, empty]
    rfl

end Reader

theorem Spells.of_runs (runs : List (List Char)) :
    Spells (runs.flatMap fun run => .mark :: run.map (Part.text true)) runs.flatten := by
  induction runs with
  | nil => exact .nil
  | cons run runs ih => exact (Spells.mark (.of_chars run)).append ih

/-- A text that is put in quotes is read as one word, and that stands for the text again. -/
theorem read_quote (text : String) {rest : List Char}
    (ends : ∀ c ∈ rest.head?, Reader.endsWord c = true) {fuel : Nat}
    (enough : (Builtin.quote text).toList.length < fuel) (aliases : Aliases)
    (replaced : List Replaced) : ∃ word,
      (Reader.parts fuel .word []).outcome aliases replaced
          ((Builtin.quote text).toList ++ rest) = some ((word, rest), replaced) ∧
        ∀ script st, (wordFields script word).run st = (.ok [text], st) := by
  obtain ⟨runs, spelled, filled, whole, uniform⟩ := Reader.exists_runs_quote text
  rw [spelled] at enough ⊢
  have spells := Spells.of_runs runs
  refine ⟨_, Reader.outcome_parts_flatMap uniform enough [] ends, fun script st => ?_⟩
  obtain ⟨run, runs, rfl⟩ := List.exists_cons_of_ne_nil filled
  rw [List.reverse_nil, List.nil_append, spells.run_wordFields nofun, whole, String.ofList_toList]

end SubordinateIds.Shell
