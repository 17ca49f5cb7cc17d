import Mathlib.Data.List.Infix
import SubordinateIds.Proofs.Catalogue

/-
  Filling — arguments are put in one after the other, as if all at once

  A wording in which every brace belongs to a placeholder is read as a list of parts: plain
  characters and holes. Putting an argument in, by a search through the whole text, is the same as
  putting it into the holes of its name, part by part (`fill_spell`). For this the plain parts
  must not have an opening brace; a closing one does no harm. So the search stays true to
  the parts for as long as no value with an opening brace was put in, and the value that comes
  last may be anything (`foldl_fill_spell`).

  What a hole is filled with does not depend on the order of the arguments, as each has a name
  of its own (`filled_perm`).
-/

namespace SubordinateIds.Catalogue

/-- The name of a placeholder: one or more lower-case ASCII letters or underscores. -/
def IsName (name : String) : Prop :=
  name.toList ≠ [] ∧ ∀ c ∈ name.toList, ('a' ≤ c ∧ c ≤ 'z') ∨ c = '_'

instance (name : String) : Decidable (IsName name) :=
  @instDecidableAnd _ _ inferInstance (List.decidableBAll _ _)

/-- A part of a wording. -/
inductive Part where
  | plain (c : Char)
  | hole (name : String)

namespace Part

/-- How a part is spelled. -/
def spell : Part → List Char
  | plain c => [c]
  | hole name => placeholder name.toList

/-- A part once all arguments are put in, each into the holes of its name. A hole for which
there is no argument stays. -/
def filled (arguments : List (String × String)) : Part → List Char
  | plain c => [c]
  | hole name =>
    match arguments.lookup name with
    | some value => value.toList
    | none => placeholder name.toList

/-- The parts that come of a part when one argument is put in. -/
def put (argument : String × String) : Part → List Part
  | plain c => [plain c]
  | hole name => if name = argument.1 then argument.2.toList.map plain else [hole name]

/-- A plain part does not open a hole, and a hole has a name. -/
def Closed : Part → Prop
  | plain c => c ≠ '\x7b'
  | hole name => IsName name

end Part

/-- The text is made of these parts, and every brace in it belongs to a hole. -/
structure Reads (text : List Char) (ps : List Part) : Prop where
  spelled : ps.flatMap Part.spell = text
  plain : ∀ c, .plain c ∈ ps → c ≠ '\x7b' ∧ c ≠ '\x7d'
  named : ∀ name, .hole name ∈ ps → IsName name

variable {name name' : String} {arguments arguments' : List (String × String)}
  {text text' : List Char} {ps qs : List Part}

theorem Reads.closed (h : Reads text ps) : ∀ p ∈ ps, p.Closed := by
  intro p mem
  cases p with
  | plain c => exact (h.plain c mem).1
  | hole name => exact h.named name mem

/-! ## Which texts are read as parts -/

theorem reads_plain (opening : '\x7b' ∉ text) (closing : '\x7d' ∉ text) :
    Reads text (text.map .plain) where
  spelled := by simp [List.flatMap_map, Part.spell]
  plain c mem := by
    have letter : c ∈ text := by simpa using mem
    exact ⟨fun same => opening (same ▸ letter), fun same => closing (same ▸ letter)⟩
  named := by simp

theorem reads_hole (named : IsName name) : Reads (placeholder name.toList) [.hole name] where
  spelled := by simp [Part.spell]
  plain := by simp
  named := by simpa using named

theorem Reads.append (h : Reads text ps) (h' : Reads text' qs) :
    Reads (text ++ text') (ps ++ qs) where
  spelled := by rw [List.flatMap_append, h.spelled, h'.spelled]
  plain c mem := (List.mem_append.mp mem).elim (h.plain c) (h'.plain c)
  named name mem := (List.mem_append.mp mem).elim (h.named name) (h'.named name)

/-- Every entry of the catalogue is read as parts: it is plain up to its first opening brace,
and the rest of it, if there is a rest, is a single hole. -/
theorem exists_reads_of_mem_entries : ∀ e ∈ entries, ∃ ps, Reads e.2.toList ps := by
  intro e mem
  have shape : ∀ e ∈ entries,
      let before := e.2.toList.takeWhile (· != '\x7b')
      let rest := e.2.toList.dropWhile (· != '\x7b')
      let name := String.ofList rest.tail.dropLast
      '\x7b' ∉ before ∧ '\x7d' ∉ before ∧
        (rest = [] ∨ (rest = placeholder name.toList ∧ IsName name)) := by
    decide +kernel
  obtain ⟨opening, closing, rest⟩ := shape e mem
  have before := reads_plain opening closing
  rw [← List.takeWhile_append_dropWhile (p := (· != '\x7b')) (l := e.2.toList)]
  rcases rest with none | ⟨hole, named⟩
  · rw [none, List.append_nil]
    exact ⟨_, before⟩
  · rw [hole]
    exact ⟨_, before.append (reads_hole named)⟩

/-! ## One argument -/

theorem IsName.not_mem (h : IsName name) : '\x7b' ∉ name.toList ∧ '\x7d' ∉ name.toList := by
  refine ⟨fun mem => ?_, fun mem => ?_⟩ <;>
  · have other := h.2 _ mem
    revert other
    decide

theorem IsName.takeWhile (h : IsName name) (rest : List Char) :
    (name.toList ++ '\x7d' :: rest).takeWhile (· != '\x7d') = name.toList := by
  have letters : ∀ c ∈ name.toList, (c != '\x7d') = true := by
    intro c mem
    rw [bne_iff_ne]
    exact fun same => h.not_mem.2 (same ▸ mem)
  rw [List.takeWhile_append_of_pos letters, List.takeWhile_cons_of_neg (by simp), List.append_nil]

theorem eq_of_placeholder_begins (named : IsName name) (named' : IsName name') {rest : List Char}
    (begins : placeholder name.toList <+: placeholder name'.toList ++ rest) : name = name' := by
  obtain ⟨more, same⟩ := begins
  simp only [placeholder, List.cons_append, List.append_assoc, List.nil_append, List.cons.injEq,
    true_and] at same
  apply String.toList_inj.mp
  rw [← named.takeWhile more, same, named'.takeWhile]

theorem replaceFrom_other (named : IsName name) (named' : IsName name') (other : name' ≠ name)
    (value rest : List Char) :
    replaceFrom (placeholder name.toList) value 0 (placeholder name'.toList ++ rest) =
      placeholder name'.toList ++ replaceFrom (placeholder name.toList) value 0 rest := by
  have missed :
      (placeholder name.toList).isPrefixOf (placeholder name'.toList ++ rest) = false := by
    rw [Bool.eq_false_iff, ne_eq, List.isPrefixOf_iff_prefix]
    exact fun begins => other (eq_of_placeholder_begins named named' begins).symm
  -- what follows the opening brace has none in it
  have plain : '\x7b' ∉ name'.toList ++ ['\x7d'] := by
    simp [named'.not_mem.1]
  have spelled : placeholder name'.toList = '\x7b' :: (name'.toList ++ ['\x7d']) := rfl
  rw [spelled, List.cons_append] at missed ⊢
  rw [replaceFrom, missed, replaceFrom_plain plain]
  rfl

theorem fill_spell {argument : String × String} (named : IsName argument.1)
    (closed : ∀ p ∈ ps, p.Closed) :
    fill (ps.flatMap Part.spell) argument =
      (ps.flatMap (Part.put argument)).flatMap Part.spell := by
  induction ps with
  | nil => rfl
  | cons p ps ih =>
    obtain ⟨first, others⟩ := List.forall_mem_cons.mp closed
    rw [fill] at ih ⊢
    rw [List.flatMap_cons, List.flatMap_cons, List.flatMap_append, ← ih others]
    cases p with
    | plain c =>
      have unbraced : '\x7b' ∉ [c] := by simpa [Part.Closed] using first.symm
      exact replaceFrom_plain unbraced _ _ _
    | hole name =>
      by_cases own : name = argument.1
      · subst own
        rw [Part.spell, replaceFrom_placeholder, Part.put, if_pos rfl, List.flatMap_map]
        simp [Part.spell]
      · rw [Part.spell, replaceFrom_other named first own, Part.put, if_neg own]
        simp [Part.spell]

/-! ## All arguments -/

theorem flatMap_put (argument : String × String) (p : Part) :
    (p.put argument).flatMap (Part.filled arguments) = p.filled (argument :: arguments) := by
  cases p with
  | plain c => simp [Part.put, Part.filled]
  | hole name =>
    by_cases own : name = argument.1
    · subst own
      have found : (argument :: arguments).lookup argument.1 = some argument.2 :=
        List.lookup_cons_self
      simp only [Part.put, if_true, List.flatMap_map, Part.filled, found, List.flatMap_singleton']
    · have left : (argument :: arguments).lookup name = arguments.lookup name := by
        rw [List.lookup_cons, beq_false_of_ne own]
      simp only [Part.put, if_neg own, List.flatMap_singleton, Part.filled, left]

theorem filled_nil : Part.filled [] = Part.spell := by
  funext p
  cases p <;> rfl

theorem closed_put {argument : String × String} (unbraced : '\x7b' ∉ argument.2.toList)
    (closed : ∀ p ∈ ps, p.Closed) : ∀ p ∈ ps.flatMap (Part.put argument), p.Closed := by
  intro p mem
  obtain ⟨q, there, mem⟩ := List.mem_flatMap.mp mem
  cases q with
  | plain c =>
    rw [Part.put, List.mem_singleton] at mem
    exact mem ▸ closed _ there
  | hole name =>
    rw [Part.put] at mem
    split at mem
    · obtain ⟨c, letter, rfl⟩ := List.mem_map.mp mem
      exact fun same => unbraced (same ▸ letter)
    · rw [List.mem_singleton] at mem
      exact mem ▸ closed _ there

/-- Arguments that are put in one after the other fill the parts all at once, if none but the
last has an opening brace in its value. -/
theorem foldl_fill_spell (named : ∀ a ∈ arguments, IsName a.1)
    (unbraced : ∀ a ∈ arguments.dropLast, '\x7b' ∉ a.2.toList) (closed : ∀ p ∈ ps, p.Closed) :
    arguments.foldl fill (ps.flatMap Part.spell) = ps.flatMap (Part.filled arguments) := by
  induction arguments generalizing ps with
  | nil => simp only [List.foldl_nil, filled_nil]
  | cons a arguments ih =>
    obtain ⟨first, others⟩ := List.forall_mem_cons.mp named
    have at_once : (ps.flatMap (Part.put a)).flatMap (Part.filled arguments) =
        ps.flatMap (Part.filled (a :: arguments)) := by
      simp only [List.flatMap_assoc, flatMap_put]
    rw [List.foldl_cons, fill_spell first closed, ← at_once]
    cases arguments with
    | nil => simp only [List.foldl_nil, filled_nil]
    | cons b arguments =>
      rw [List.dropLast_cons_cons, List.forall_mem_cons] at unbraced
      exact ih others unbraced.2 (closed_put unbraced.1 closed)

/-! ## The order of the arguments -/

theorem lookup_eq_some_iff_mem (distinct : (arguments.map (·.1)).Nodup) {value : String} :
    arguments.lookup name = some value ↔ (name, value) ∈ arguments := by
  induction arguments with
  | nil => simp
  | cons a arguments ih =>
    obtain ⟨fresh, distinct⟩ := List.nodup_cons.mp distinct
    by_cases own : name = a.1
    · -- no other argument has this name
      subst own
      have single : (a.1, value) ∉ arguments := fun mem => fresh (List.mem_map.mpr ⟨_, mem, rfl⟩)
      have found : (a :: arguments).lookup a.1 = some a.2 := List.lookup_cons_self
      simp [found, single, Prod.ext_iff, eq_comm]
    · rw [List.lookup_cons, beq_false_of_ne own, List.mem_cons, ← ih distinct]
      simp [own, Prod.ext_iff]

theorem filled_perm (distinct : (arguments.map (·.1)).Nodup) (perm : arguments'.Perm arguments) :
    Part.filled arguments' = Part.filled arguments := by
  have distinct' : (arguments'.map (·.1)).Nodup := (perm.map _).nodup_iff.mpr distinct
  have lookup (name : String) : arguments'.lookup name = arguments.lookup name := by
    refine Option.ext fun value => ?_
    rw [lookup_eq_some_iff_mem distinct', lookup_eq_some_iff_mem distinct, perm.mem_iff]
  funext p
  cases p with
  | plain c => rfl
  | hole name => rw [Part.filled, Part.filled, lookup]

/-! ## Messages -/

/-- A message is its wording with all holes filled at once. Let every brace of the wording
belong to a placeholder, and let the arguments have different names. If there is a single
argument, or if no value has an opening brace, then each hole with an argument is replaced by
the value as it was given, everything else stays, and the order of the arguments does not tell. -/
theorem message_fills (key : String) (ps : List Part) (arguments : List (String × String))
    (reads : Reads (template key).toList ps) (named : ∀ a ∈ arguments, IsName a.1)
    (distinct : (arguments.map (·.1)).Nodup)
    (unbraced : arguments.length = 1 ∨ ∀ a ∈ arguments, '\x7b' ∉ a.2.toList) :
    message key arguments = String.ofList (ps.flatMap (Part.filled arguments)) ∧
      ∀ arguments' : List (String × String), arguments'.Perm arguments →
        message key arguments' = message key arguments := by
  have filled (arguments' : List (String × String)) (perm : arguments'.Perm arguments) :
      message key arguments' = String.ofList (ps.flatMap (Part.filled arguments)) := by
    have earlier : ∀ a ∈ arguments'.dropLast, '\x7b' ∉ a.2.toList := by
      rcases unbraced with single | all
      · -- nothing comes before the only argument
        rw [← perm.length_eq] at single
        obtain ⟨a, rfl⟩ := List.length_eq_one_iff.mp single
        exact List.forall_mem_nil _
      · exact fun a mem => all a (perm.mem_iff.mp (List.mem_of_mem_dropLast mem))
    have named' : ∀ a ∈ arguments', IsName a.1 := fun a mem => named a (perm.mem_iff.mp mem)
    rw [message, ← reads.spelled, foldl_fill_spell named' earlier reads.closed,
      filled_perm distinct perm]
  refine ⟨filled arguments (.refl _), fun arguments' perm => ?_⟩
  rw [filled arguments' perm, filled arguments (.refl _)]

/-- A failure that quotes its own placeholder, and a wording of its own with a hole that comes
twice, a hole without an argument, and a value with a closing brace. -/
theorem message_fills_failure :
    message "workflow.failed" [("error", "no \x7berror\x7d")] =
        "static-subid: no " ++ "\x7berror\x7d" ∧
      message "\x7ba\x7d \x7bb\x7d \x7ba\x7d \x7bc\x7d" [("a", "x"), ("b", "\x7d")] =
        "x \x7d x \x7bc\x7d" ∧
      message "\x7ba\x7d \x7bb\x7d \x7ba\x7d \x7bc\x7d" [("b", "\x7d"), ("a", "x")] =
        "x \x7d x \x7bc\x7d" := by
  have space : Reads [' '] [.plain ' '] := @reads_plain [' '] (by decide) (by decide)
  have before : Reads "static-subid: ".toList _ :=
    reads_plain (by decide +kernel) (by decide +kernel)
  have hole (name : String) (named : IsName name) := reads_hole named
  have failure : Reads (template "workflow.failed").toList
      ("static-subid: ".toList.map .plain ++ [.hole "error"]) :=
    before.append (hole "error" (by decide +kernel))
  have own : Reads (template "\x7ba\x7d \x7bb\x7d \x7ba\x7d \x7bc\x7d").toList
      [.hole "a", .plain ' ', .hole "b", .plain ' ', .hole "a", .plain ' ', .hole "c"] :=
    (hole "a" (by decide +kernel)).append <| space.append <|
      (hole "b" (by decide +kernel)).append <| space.append <|
      (hole "a" (by decide +kernel)).append <| space.append (hole "c" (by decide +kernel))
  have both := message_fills _ _ [("a", "x"), ("b", "\x7d")] own (by decide +kernel)
    (by decide +kernel) (.inr (by decide +kernel))
  have first : message "\x7ba\x7d \x7bb\x7d \x7ba\x7d \x7bc\x7d" [("a", "x"), ("b", "\x7d")] =
      "x \x7d x \x7bc\x7d" := by
    rw [both.1]
    decide +kernel
  refine ⟨?_, first, ?_⟩
  · rw [(message_fills _ _ [("error", "no \x7berror\x7d")] failure (by decide +kernel)
      (by decide +kernel) (.inl rfl)).1]
    decide +kernel
  · rw [both.2 _ (.swap _ _ _), first]

end SubordinateIds.Catalogue
