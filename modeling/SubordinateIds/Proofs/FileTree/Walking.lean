import Mathlib.Logic.Relation
import SubordinateIds.FileTree
import SubordinateIds.Proofs.Octets

/-
  Walking — which place a path leads to

  A walk is a row of steps. Each of them uses up the segment in front: it stays, goes up, goes
  down, or follows a link, which puts the target of the link in front of what is left
  (`Step`). A walk ends where no segment is left, or it halts where the segment in front asks
  for something that the place does not grant (`Halt`). There is no third way, and a link
  that is followed is counted, so every walk ends (`exists_end`).

  What `walk` computes is the end of that row: `walk_eq_ok_iff` and `walk_eq_error_iff`. All
  else is read off the steps: a path may be walked in two parts (`walk_append`), and no walk
  ends at a link (`walk_plain`), as a link is never gone down to.
-/

namespace SubordinateIds.FileTree

open Relation (ReflTransGen)

/-- A way that is to be gone: how many links may still be followed, the place that was
reached, and the segments that are left. -/
structure Way where
  links : Nat
  place : List Octets
  segments : List Octets

/-- The segment is looked for in a directory. -/
structure IsEntry (segment : Octets) : Prop where
  filled : segment ≠ []
  notHere : segment ≠ [Path.dot]
  notUp : segment ≠ [Path.dot, Path.dot]
  bounded : segment.length ≤ 255

/-- The place has a directory that may be searched. -/
def Searched (t : FileTree) (admits : UInt32 → Bool) (place : List Octets) : Prop :=
  ∃ mode, t.node? place = some (.directory mode) ∧ admits mode = true

/-- A step on a way. An empty segment needs a directory, all others one that may be
searched. -/
inductive Step (t : FileTree) (admits : UInt32 → Bool) : Way → Way → Prop where
  | stay {links place rest mode} (directory : t.node? place = some (.directory mode)) :
      Step t admits ⟨links, place, [] :: rest⟩ ⟨links, place, rest⟩
  | here {links place rest} (searched : t.Searched admits place) :
      Step t admits ⟨links, place, [Path.dot] :: rest⟩ ⟨links, place, rest⟩
  | up {links place rest} (searched : t.Searched admits place) :
      Step t admits ⟨links, place, [Path.dot, Path.dot] :: rest⟩ ⟨links, place.tail, rest⟩
  | down {links place rest segment node} (searched : t.Searched admits place)
      (entry : IsEntry segment) (found : t.node? (segment :: place) = some node)
      (plain : ∀ target, node ≠ .link target) :
      Step t admits ⟨links, place, segment :: rest⟩ ⟨links, segment :: place, rest⟩
  | follow {links place rest segment target} (searched : t.Searched admits place)
      (entry : IsEntry segment) (found : t.node? (segment :: place) = some (.link target)) :
      Step t admits ⟨links + 1, place, segment :: rest⟩
        ⟨links, origin place target, target.segments ++ rest⟩

/-- What a place does not grant to the segment in front. -/
inductive Halt (t : FileTree) (admits : UInt32 → Bool) : Way → SystemError → Prop where
  | noDirectory {links place rest segment} (none : ∀ mode, t.node? place ≠ some (.directory mode)) :
      Halt t admits ⟨links, place, segment :: rest⟩ .notADirectory
  | refused {links place rest segment mode} (directory : t.node? place = some (.directory mode))
      (closed : admits mode = false) (filled : segment ≠ []) :
      Halt t admits ⟨links, place, segment :: rest⟩ .permissionDenied
  | tooLong {links place rest segment} (searched : t.Searched admits place)
      (long : 255 < segment.length) : Halt t admits ⟨links, place, segment :: rest⟩ .invalidFilename
  | missing {links place rest segment} (searched : t.Searched admits place)
      (entry : IsEntry segment) (none : t.node? (segment :: place) = none) :
      Halt t admits ⟨links, place, segment :: rest⟩ .notFound
  | exhausted {place rest segment target} (searched : t.Searched admits place)
      (entry : IsEntry segment) (found : t.node? (segment :: place) = some (.link target)) :
      Halt t admits ⟨0, place, segment :: rest⟩ .filesystemLoop

variable {t : FileTree} {admits : UInt32 → Bool} {w w' : Way} {e : SystemError}
variable {links left : Nat} {place found : List Octets} {segments before after : List Octets}

/-! ## The steps of a walk -/

theorem walk_of_step (h : t.Step admits w w') :
    t.walk admits w.links w.place w.segments = t.walk admits w'.links w'.place w'.segments := by
  cases h with
  | stay directory =>
    rw [walk]
    simp [directory]
  | here searched =>
    obtain ⟨mode, directory, admitted⟩ := searched
    rw [walk]
    simp [directory, admitted]
  | up searched =>
    obtain ⟨mode, directory, admitted⟩ := searched
    rw [walk]
    simp [directory, admitted]
  | @down links place rest segment node searched entry found plain =>
    obtain ⟨mode, directory, admitted⟩ := searched
    have short : ¬255 < segment.length := Nat.not_lt.mpr entry.bounded
    rw [walk]
    simp only [directory, admitted, entry.filled, entry.notHere, entry.notUp, short, found,
      Bool.not_true, Bool.false_eq_true, if_false]
  | @follow links place rest segment target searched entry found =>
    obtain ⟨mode, directory, admitted⟩ := searched
    have short : ¬255 < segment.length := Nat.not_lt.mpr entry.bounded
    rw [walk]
    simp only [directory, admitted, entry.filled, entry.notHere, entry.notUp, short, found,
      Bool.not_true, Bool.false_eq_true, if_false]
    rfl

theorem walk_of_halt (h : t.Halt admits w e) :
    t.walk admits w.links w.place w.segments = .error e := by
  cases h with
  | @noDirectory links place rest segment none =>
    rw [walk]
    split
    · rename_i mode directory
      exact absurd directory (none mode)
    · rfl
  | refused directory closed filled =>
    rw [walk]
    simp [directory, closed, filled]
  | @tooLong links place rest segment searched long =>
    obtain ⟨mode, directory, admitted⟩ := searched
    have filled : segment ≠ [] := by
      rintro rfl
      exact absurd long (by decide)
    have notHere : segment ≠ [Path.dot] := by
      rintro rfl
      exact absurd long (by decide)
    have notUp : segment ≠ [Path.dot, Path.dot] := by
      rintro rfl
      exact absurd long (by decide)
    rw [walk]
    simp [directory, admitted, filled, notHere, notUp, long]
  | @missing links place rest segment searched entry none =>
    obtain ⟨mode, directory, admitted⟩ := searched
    have short : ¬255 < segment.length := Nat.not_lt.mpr entry.bounded
    rw [walk]
    simp only [directory, admitted, entry.filled, entry.notHere, entry.notUp, short, none,
      Bool.not_true, Bool.false_eq_true, if_false]
  | @exhausted place rest segment target searched entry found =>
    obtain ⟨mode, directory, admitted⟩ := searched
    have short : ¬255 < segment.length := Nat.not_lt.mpr entry.bounded
    rw [walk]
    simp only [directory, admitted, entry.filled, entry.notHere, entry.notUp, short, found,
      Bool.not_true, Bool.false_eq_true, if_false]

/-- A way is gone, or there is a step, or something halts it. -/
theorem progress (t : FileTree) (admits : UInt32 → Bool) (w : Way) :
    w.segments = [] ∨ (∃ w', t.Step admits w w') ∨ ∃ e, t.Halt admits w e := by
  obtain ⟨links, place, segments⟩ := w
  cases segments with
  | nil => exact .inl rfl
  | cons segment rest =>
    refine .inr ?_
    by_cases directory : ∃ mode, t.node? place = some (.directory mode)
    case neg => exact .inr ⟨_, .noDirectory fun mode h => directory ⟨mode, h⟩⟩
    obtain ⟨mode, directory⟩ := directory
    by_cases filled : segment = []
    · subst filled
      exact .inl ⟨_, .stay directory⟩
    cases admitted : admits mode with
    | false => exact .inr ⟨_, .refused directory admitted filled⟩
    | true =>
      have searched : t.Searched admits place := ⟨mode, directory, admitted⟩
      by_cases here : segment = [Path.dot]
      · subst here
        exact .inl ⟨_, .here searched⟩
      by_cases up : segment = [Path.dot, Path.dot]
      · subst up
        exact .inl ⟨_, .up searched⟩
      obtain long | short := Nat.lt_or_ge 255 segment.length
      · exact .inr ⟨_, .tooLong searched long⟩
      have entry : IsEntry segment := ⟨filled, here, up, short⟩
      rcases found : t.node? (segment :: place) with _ | node
      · exact .inr ⟨_, .missing searched entry found⟩
      by_cases link : ∃ target, node = .link target
      case neg => exact .inl ⟨_, .down searched entry found fun target h => link ⟨target, h⟩⟩
      obtain ⟨target, rfl⟩ := link
      cases links with
      | zero => exact .inr ⟨_, .exhausted searched entry found⟩
      | succ links => exact .inl ⟨_, .follow searched entry found⟩

/-- A step uses up a segment, or else a link. -/
theorem Step.lt (h : t.Step admits w w') :
    Prod.Lex (· < ·) (· < ·) (w'.links, w'.segments.length) (w.links, w.segments.length) := by
  cases h with
  | stay | here | up | down => exact .right _ (Nat.lt_succ_self _)
  | follow => exact .left _ _ (Nat.lt_succ_self _)

theorem exists_end (t : FileTree) (admits : UInt32 → Bool) (w : Way) :
    ∃ w', ReflTransGen (t.Step admits) w w' ∧ (w'.segments = [] ∨ ∃ e, t.Halt admits w' e) := by
  rcases t.progress admits w with done | ⟨next, step⟩ | halt
  · exact ⟨w, .refl, .inl done⟩
  · obtain ⟨w', goes, ended⟩ := exists_end t admits next
    exact ⟨w', .head step goes, ended⟩
  · exact ⟨w, .refl, .inr halt⟩
termination_by (w.links, w.segments.length)
decreasing_by exact step.lt

/-! ## A whole walk -/

theorem walk_of_steps (h : ReflTransGen (t.Step admits) w w') :
    t.walk admits w.links w.place w.segments = t.walk admits w'.links w'.place w'.segments := by
  induction h with
  | refl => rfl
  | tail _ step ih => exact ih.trans (walk_of_step step)

/-- A walk comes to a place exactly if there are steps to it that use up all segments. -/
theorem walk_eq_ok_iff :
    t.walk admits links place segments = .ok found ↔
      ∃ left, ReflTransGen (t.Step admits) ⟨links, place, segments⟩ ⟨left, found, []⟩ := by
  refine ⟨?_, ?_⟩
  · intro h
    obtain ⟨⟨left, reached, rest⟩, goes, ended⟩ := t.exists_end admits ⟨links, place, segments⟩
    have same := walk_of_steps goes
    rcases ended with done | ⟨e, halt⟩
    · subst done
      have there : (Except.ok found : Except SystemError (List Octets)) = .ok reached := by
        rw [← h, same, walk]
      cases there
      exact ⟨left, goes⟩
    · rw [h, walk_of_halt halt] at same
      cases same
  · intro h
    obtain ⟨left, goes⟩ := h
    rw [walk_of_steps goes, walk]

/-- A walk fails exactly if there are steps to where it halts, and it fails for what it halts
for. -/
theorem walk_eq_error_iff :
    t.walk admits links place segments = .error e ↔
      ∃ w, ReflTransGen (t.Step admits) ⟨links, place, segments⟩ w ∧ t.Halt admits w e := by
  refine ⟨?_, ?_⟩
  · intro h
    obtain ⟨⟨left, reached, rest⟩, goes, ended⟩ := t.exists_end admits ⟨links, place, segments⟩
    have same := walk_of_steps goes
    rcases ended with done | ⟨e', halt⟩
    · subst done
      rw [h, walk] at same
      cases same
    · rw [h, walk_of_halt halt] at same
      cases same
      exact ⟨_, goes, halt⟩
  · intro h
    obtain ⟨w, goes, halt⟩ := h
    rw [walk_of_steps goes, walk_of_halt halt]

/-! ## A walk in two parts -/

/-- The way with more segments behind it. -/
def Way.and (w : Way) (after : List Octets) : Way := { w with segments := w.segments ++ after }

theorem Step.and (h : t.Step admits w w') (after : List Octets) :
    t.Step admits (w.and after) (w'.and after) := by
  cases h with
  | stay directory => exact .stay directory
  | here searched => exact .here searched
  | up searched => exact .up searched
  | down searched entry found plain => exact .down searched entry found plain
  | @follow links place rest segment target searched entry found =>
    have joined : (Way.mk links (origin place target) (target.segments ++ rest)).and after =
        ⟨links, origin place target, target.segments ++ (rest ++ after)⟩ := by
      simp [Way.and, List.append_assoc]
    rw [joined]
    exact .follow searched entry found

theorem steps_and (h : ReflTransGen (t.Step admits) w w') (after : List Octets) :
    ReflTransGen (t.Step admits) (w.and after) (w'.and after) := by
  induction h with
  | refl => exact .refl
  | tail _ step ih => exact ih.tail (step.and after)

/-- What comes after some segments is walked from where they lead, with the links that they
leave. -/
theorem walk_append
    (h : ReflTransGen (t.Step admits) ⟨links, place, before⟩ ⟨left, found, []⟩)
    (after : List Octets) :
    t.walk admits links place (before ++ after) = t.walk admits left found after :=
  walk_of_steps (steps_and h after)

theorem walk_append_of_halt
    (goes : ReflTransGen (t.Step admits) ⟨links, place, before⟩ w) (halt : t.Halt admits w e)
    (after : List Octets) : t.walk admits links place (before ++ after) = .error e := by
  have same := walk_of_steps (steps_and goes after)
  have halts : t.Halt admits (w.and after) e := by
    cases halt with
    | noDirectory none => exact .noDirectory none
    | refused directory closed filled => exact .refused directory closed filled
    | tooLong searched long => exact .tooLong searched long
    | missing searched entry none => exact .missing searched entry none
    | exhausted searched entry found => exact .exhausted searched entry found
  exact same.trans (walk_of_halt halts)

/-- Segments that lead the same way from everywhere may stand for each other at the end of a
path. -/
theorem walk_congr (h : ∀ links place, t.walk admits links place before =
      t.walk admits links place after) (first : List Octets) :
    t.walk admits links place (first ++ before) = t.walk admits links place (first ++ after) := by
  obtain ⟨⟨left, reached, rest⟩, goes, done | ⟨e, halt⟩⟩ :=
    t.exists_end admits ⟨links, place, first⟩
  · subst done
    rw [walk_append goes, walk_append goes, h]
  · rw [walk_append_of_halt goes halt, walk_append_of_halt goes halt]

/-! ## No walk ends at a link -/

/-- There is a directory at the root. -/
def Rooted (t : FileTree) : Prop := ∃ mode, t.node? [] = some (.directory mode)

/-- The place can be stood at: what is above it are directories, and it is no link. -/
structure Standing (t : FileTree) (place : List Octets) : Prop where
  above : ∀ up, up <:+ place → up ≠ place → ∃ mode, t.node? up = some (.directory mode)
  plain : ∀ target, t.node? place ≠ some (.link target)

theorem plain_of_directory {mode : UInt32} (directory : t.node? place = some (.directory mode))
    (target : Path) : t.node? place ≠ some (.link target) := by
  rw [directory]
  exact fun h => nomatch h

theorem Rooted.standing (rooted : t.Rooted) : t.Standing [] where
  above := fun _ suffix proper => absurd (List.suffix_nil.mp suffix) proper
  plain := by
    obtain ⟨mode, directory⟩ := rooted
    exact plain_of_directory directory

theorem Standing.tail (standing : t.Standing place) : t.Standing place.tail := by
  cases place with
  | nil => exact standing
  | cons name parent =>
    have shorter {up : List Octets} (suffix : up <:+ parent) : up ≠ name :: parent := by
      rintro rfl
      exact absurd suffix.length_le (by simp)
    have parentAbove := List.suffix_cons name parent
    refine ⟨?_, ?_⟩
    · intro up suffix _
      exact standing.above up (suffix.trans parentAbove) (shorter suffix)
    · obtain ⟨mode, directory⟩ := standing.above parent parentAbove (shorter List.suffix_rfl)
      exact plain_of_directory directory

theorem Step.standing (rooted : t.Rooted) (h : t.Step admits w w')
    (standing : t.Standing w.place) : t.Standing w'.place := by
  cases h with
  | stay | here => exact standing
  | up => exact standing.tail
  | @down links place rest segment node searched entry found plain =>
    refine ⟨?_, ?_⟩
    · intro up suffix proper
      obtain rfl | suffix := List.suffix_cons_iff.mp suffix
      · exact absurd rfl proper
      · by_cases same : up = place
        · obtain ⟨mode, directory, -⟩ := searched
          exact ⟨mode, same ▸ directory⟩
        · exact standing.above up suffix same
    · intro target link
      rw [found] at link
      exact plain target (Option.some.inj link)
  | @follow links place rest segment target searched entry found =>
    show t.Standing (if target.isAbsolute then [] else place)
    split
    · exact rooted.standing
    · exact standing

/-- Where a walk comes to can be stood at, if it starts at such a place. -/
theorem walk_standing (rooted : t.Rooted) (standing : t.Standing place)
    (h : t.walk admits links place segments = .ok found) : t.Standing found := by
  obtain ⟨left, goes⟩ := walk_eq_ok_iff.mp h
  have kept : ∀ {w : Way}, ReflTransGen (t.Step admits) ⟨links, place, segments⟩ w →
      t.Standing w.place := by
    intro w goes
    induction goes with
    | refl => exact standing
    | tail _ step ih => exact step.standing rooted ih
  exact kept goes

/-- A path has a segment, so it asks for a directory where it starts. -/
theorem walk_plain (rooted : t.Rooted) {p : Path}
    (h : t.walk admits links (origin workplace p) p.segments = .ok found) (target : Path) :
    t.node? found ≠ some (.link target) := by
  have any : p.segments ≠ [] := by
    rw [Path.segments, Octets.splitOn_eq]
    exact List.splitOn_ne_nil Path.slash p.octets
  obtain ⟨segment, rest, filled⟩ := List.exists_cons_of_ne_nil any
  by_cases directory : ∃ mode, t.node? (origin workplace p) = some (.directory mode)
  case neg =>
    have halts : t.walk admits links (origin workplace p) (segment :: rest) =
        .error .notADirectory := walk_of_halt (.noDirectory fun mode h => directory ⟨mode, h⟩)
    rw [filled, halts] at h
    cases h
  have standing : t.Standing (origin workplace p) := by
    obtain ⟨mode, directory⟩ := directory
    refine ⟨?_, plain_of_directory directory⟩
    intro up suffix proper
    have short : (origin workplace p).length ≤ 1 := by
      unfold origin
      split <;> decide
    have root : up = [] := by
      have less : up.length < (origin workplace p).length := by
        refine Nat.lt_of_le_of_ne suffix.length_le ?_
        intro same
        exact proper (suffix.eq_of_length same)
      exact List.eq_nil_of_length_eq_zero (by omega)
    rw [root]
    exact rooted
  exact (walk_standing rooted standing h).plain target

end SubordinateIds.FileTree
