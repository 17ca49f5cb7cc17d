import Mathlib.Data.List.Sort
import SubordinateIds.Proofs.FileTree.Walking
import SubordinateIds.Proofs.Path.Child

/-
  Answers — what a file tree says of a path

  Things kept by path are kept by components, so a tree must not tell two spellings apart
  that have the same ones. It does not, if both end in a segment that counts: a slash or a
  dot behind that asks for a directory, which the name alone does not (`resolve_congr`).

  A path leads to a node and never to a link (`resolve_plain`). What is then said of the
  path by its status, by opening it and by listing it is about that node
  (`openFile_eq_ok_iff`, `list_eq_ok_iff`), and the path of a name in a list leads to what
  has the name (`resolve_child`).
-/

namespace SubordinateIds.FileTree

open Relation (ReflTransGen)
open SubordinateIds.Path (Component)

variable {t : FileTree} {admits : UInt32 → Bool} {p q : Path} {place : List Octets} {node : Node}

/-! ## Segments that do not count -/

/-- The segment that a component is spelled by. -/
def spelling : Component → Octets
  | .parent => [Path.dot, Path.dot]
  | .name octets => octets
  | .root | .here => []

theorem spelling_of_ofSegment? {segment : Octets} {component : Component}
    (stands : Component.ofSegment? segment = some component) : spelling component = segment := by
  unfold Component.ofSegment? at stands
  split at stands
  · cases stands
  · split at stands
    · rename_i up
      cases stands
      exact up.symm
    · cases stands
      rfl

/-- The segment stands for a component. -/
def Counts (segment : Octets) : Bool := (Component.ofSegment? segment).isSome

theorem counts_eq_false_iff {segment : Octets} :
    Counts segment = false ↔ segment = [] ∨ segment = [Path.dot] := by
  unfold Counts Component.ofSegment?
  split
  · rename_i nothing
    simpa using nothing
  · rename_i something
    have stands : ¬(segment = [] ∨ segment = [Path.dot]) := by simpa using something
    split <;> simp [stands]

theorem filter_counts (segments : List Octets) :
    segments.filter Counts = (segments.filterMap Component.ofSegment?).map spelling := by
  induction segments with
  | nil => rfl
  | cons segment rest ih =>
    cases stands : Component.ofSegment? segment with
    | none => simp [Counts, stands, ih]
    | some component => simp [Counts, stands, ih, spelling_of_ofSegment? stands]

/-- A directory that may not be searched stops any segment but an empty one. -/
theorem walk_of_refused {links : Nat} {mode : UInt32} {segment : Octets} {rest : List Octets}
    (directory : t.node? place = some (.directory mode)) (closed : admits mode = false)
    (filled : segment ≠ []) :
    t.walk admits links place (segment :: rest) = .error .permissionDenied :=
  walk_of_halt (.refused directory closed filled)

/-- In front of a segment that counts, one that does not asks for nothing that the other one
would not ask for, too. -/
theorem walk_skip {segment next : Octets} {rest : List Octets} (idle : Counts segment = false)
    (counts : Counts next = true) (links : Nat) (place : List Octets) :
    t.walk admits links place (segment :: next :: rest) =
      t.walk admits links place (next :: rest) := by
  have filled : next ≠ [] := by
    rintro rfl
    cases counts
  by_cases directory : ∃ mode, t.node? place = some (.directory mode)
  case neg =>
    have halts (segment : Octets) (rest : List Octets) :
        t.walk admits links place (segment :: rest) = .error .notADirectory :=
      walk_of_halt (.noDirectory fun mode h => directory ⟨mode, h⟩)
    rw [halts, halts]
  obtain ⟨mode, directory⟩ := directory
  rcases counts_eq_false_iff.mp idle with rfl | rfl
  · exact walk_of_step (.stay directory)
  · cases admitted : admits mode with
    | true => exact walk_of_step (.here ⟨mode, directory, admitted⟩)
    | false =>
      rw [walk_of_refused directory admitted (by decide),
        walk_of_refused directory admitted filled]

/-- The path ends in a segment that counts. -/
def EndsInName (p : Path) : Prop := ∃ name, p.segments.getLast? = some name ∧ Counts name = true

theorem walk_filter {segments : List Octets} {name : Octets}
    (last : segments.getLast? = some name) (counts : Counts name = true) (links : Nat)
    (place : List Octets) :
    t.walk admits links place segments = t.walk admits links place (segments.filter Counts) := by
  induction segments generalizing links place with
  | nil => cases last
  | cons segment rest ih =>
    by_cases alone : rest = []
    · subst alone
      rw [List.getLast?_singleton] at last
      rw [Option.some.inj last, List.filter_cons_of_pos counts, List.filter_nil]
    · have last' : rest.getLast? = some name := by
        rw [← last, List.getLast?_cons_of_ne_nil alone]
      cases idle : Counts segment with
      | true =>
        rw [List.filter_cons_of_pos idle]
        exact walk_congr (fun links place => ih last' links place) [segment]
      | false =>
        rw [List.filter_cons_of_neg (by simp [idle])]
        have mem : name ∈ rest.filter Counts :=
          List.mem_filter.mpr ⟨List.mem_of_getLast? last', counts⟩
        obtain ⟨next, more, kept⟩ := List.exists_cons_of_ne_nil (List.ne_nil_of_mem mem)
        have first : Counts next = true := by
          have among : next ∈ rest.filter Counts := kept ▸ List.mem_cons_self
          exact (List.mem_filter.mp among).2
        calc t.walk admits links place ([segment] ++ rest)
            = t.walk admits links place ([segment] ++ rest.filter Counts) :=
              walk_congr (fun links place => ih last' links place) [segment]
          _ = t.walk admits links place (rest.filter Counts) := by
              rw [kept]
              exact walk_skip idle first links place

/-! ## Spellings of one path -/

/-- What a path starts with besides the components of its segments. -/
def lead (p : Path) : List Component :=
  if p.isAbsolute then [.root] else if p.segments.head? = some [Path.dot] then [.here] else []

theorem components_eq (p : Path) :
    p.components = lead p ++ p.segments.filterMap Component.ofSegment? := by
  have here : Component.ofSegment? [Path.dot] = none := rfl
  unfold Path.components lead
  by_cases absolute : p.isAbsolute = true
  · rw [if_pos absolute, if_pos absolute, List.singleton_append]
  · rw [if_neg absolute, if_neg absolute]
    cases p.segments with
    | nil => rfl
    | cons first rest =>
      by_cases dotted : first = [Path.dot] <;> simp [dotted, here]

theorem plain_of_mem_segments {component : Component}
    (mem : component ∈ p.segments.filterMap Component.ofSegment?) :
    component ≠ .root ∧ component ≠ .here := by
  obtain ⟨segment, -, stands⟩ := List.mem_filterMap.mp mem
  unfold Component.ofSegment? at stands
  split at stands
  · cases stands
  · split at stands <;> cases stands <;> exact ⟨nofun, nofun⟩

theorem isAbsolute_iff_root_mem : p.isAbsolute = true ↔ .root ∈ p.components := by
  have segments : .root ∉ p.segments.filterMap Component.ofSegment? :=
    fun mem => (plain_of_mem_segments mem).1 rfl
  rw [components_eq, List.mem_append, or_iff_left segments, lead]
  split
  · simp [*]
  · split <;> simp [*]

/-- The components of the segments are those of the path that are neither the root nor a dot
in front. -/
theorem filterMap_segments (p : Path) :
    p.segments.filterMap Component.ofSegment? =
      p.components.filter fun component => component ≠ .root ∧ component ≠ .here := by
  have dropped : (lead p).filter (fun component => component ≠ .root ∧ component ≠ .here) = [] := by
    unfold lead
    split
    · rfl
    · split <;> rfl
  have kept : (p.segments.filterMap Component.ofSegment?).filter
      (fun component => component ≠ .root ∧ component ≠ .here) =
        p.segments.filterMap Component.ofSegment? := by
    rw [List.filter_eq_self]
    intro component mem
    exact decide_eq_true (plain_of_mem_segments mem)
  rw [components_eq, List.filter_append, dropped, kept, List.nil_append]

/-- The path can be handed on: it has no NUL and is not too long. -/
structure Fits (p : Path) : Prop where
  noNul : 0 ∉ p.octets
  short : p.octets.length < 4096

theorem find_of_fits (fits : Fits p) :
    t.find p = t.walk isSearchable linkLimit (origin workplace p) p.segments := by
  have noNul : ¬p.octets.contains 0 = true := by
    rw [List.contains_iff_mem]
    exact fits.noNul
  have short : ¬p.octets.length ≥ 4096 := Nat.not_le.mpr fits.short
  rw [find, if_neg noNul, if_neg short]

/-- Two spellings with the same components that both end in a segment that counts lead to the
same node, or fail alike. -/
theorem resolve_congr (same : p.components = q.components) (fits : Fits p) (fits' : Fits q)
    (ends : EndsInName p) (ends' : EndsInName q) : t.resolve p = t.resolve q := by
  obtain ⟨name, last, counts⟩ := ends
  obtain ⟨name', last', counts'⟩ := ends'
  have start : origin workplace p = origin workplace q := by
    unfold origin
    have absolute : p.isAbsolute = q.isAbsolute := by
      rw [Bool.eq_iff_iff, isAbsolute_iff_root_mem, isAbsolute_iff_root_mem, same]
    rw [absolute]
  have segments : p.segments.filter Counts = q.segments.filter Counts := by
    rw [filter_counts, filter_counts, filterMap_segments, filterMap_segments, same]
  have found : t.find p = t.find q := by
    rw [find_of_fits fits, find_of_fits fits', walk_filter last counts, walk_filter last' counts',
      start, segments]
  rw [resolve, found, resolve]

/-! ## What a path leads to -/

theorem resolve_eq_ok_iff :
    t.resolve p = .ok (place, node) ↔ t.find p = .ok place ∧ t.node? place = some node := by
  unfold resolve
  cases t.find p with
  | error e => exact ⟨nofun, fun h => nomatch h.1⟩
  | ok found =>
    simp only [bind, Except.bind]
    refine ⟨?_, ?_⟩
    · intro h
      split at h
      · rename_i node' there
        cases h
        exact ⟨rfl, there⟩
      · cases h
    · intro h
      obtain ⟨same, there⟩ := h
      cases same
      rw [there]

theorem status_eq_ok_iff {status : FileStatus} :
    t.status p = .ok status ↔
      ∃ place node, t.resolve p = .ok (place, node) ∧ node.status = status := by
  unfold FileTree.status
  cases t.resolve p with
  | error e => exact ⟨nofun, fun ⟨_, _, h, _⟩ => nomatch h⟩
  | ok found =>
    refine ⟨?_, ?_⟩
    · intro h
      cases h
      exact ⟨found.1, found.2, rfl, rfl⟩
    · intro h
      obtain ⟨place, node, same, rfl⟩ := h
      cases same
      rfl

theorem find_plain (rooted : t.Rooted) (h : t.find p = .ok place) (target : Path) :
    t.node? place ≠ some (.link target) := by
  unfold find at h
  split at h
  · cases h
  · split at h
    · cases h
    · exact walk_plain rooted h target

/-- A path never leads to a link. -/
theorem resolve_plain (rooted : t.Rooted) (h : t.resolve p = .ok (place, node)) (target : Path) :
    node ≠ .link target := by
  rintro rfl
  obtain ⟨found, there⟩ := resolve_eq_ok_iff.mp h
  exact find_plain rooted found target there

/-- A tree that is built from the fresh one has a root that is a directory. -/
theorem rooted_fresh : fresh.Rooted := ⟨0o755, rfl⟩

theorem Rooted.insert (rooted : t.Rooted) (below : place ≠ []) (node : Node) :
    (t.insert place node).Rooted := by
  obtain ⟨mode, directory⟩ := rooted
  refine ⟨mode, ?_⟩
  have other : ([] == place) = false := by simpa using Ne.symm below
  show List.lookup [] ((place, node) :: t.nodes) = _
  rw [List.lookup_cons, other]
  exact directory

/-! ## Opening -/

/-- What is opened at a node. A directory is opened, but it cannot be read. -/
inductive Opens : Node → OpenFile → Prop where
  | file (mode contents) :
      Opens (.file mode contents) ⟨.ok (Node.file mode contents).status, contents, none⟩
  | directory (mode) :
      Opens (.directory mode) ⟨.ok (Node.directory mode).status, [], some (0, .isADirectory)⟩
  | fifo (mode) : Opens (.fifo mode) ⟨.ok (Node.fifo mode).status, [], none⟩
  | device (mode) : Opens (.device mode) ⟨.ok (Node.device mode).status, [], none⟩
  | link (target) : Opens (.link target) ⟨.ok (Node.link target).status, [], none⟩

theorem openFile_eq_ok_iff {f : OpenFile} :
    t.openFile p = .ok f ↔
      ∃ place node, t.resolve p = .ok (place, node) ∧ isReadable node.mode = true ∧
        Opens node f := by
  unfold openFile Node.checkReadable
  cases t.resolve p with
  | error e => exact ⟨nofun, fun ⟨_, _, h, _⟩ => nomatch h⟩
  | ok found =>
    obtain ⟨place, node⟩ := found
    simp only [bind, Except.bind]
    by_cases readable : isReadable node.mode = true
    case neg =>
      rw [if_neg readable]
      refine ⟨nofun, ?_⟩
      intro h
      obtain ⟨_, _, same, readable', _⟩ := h
      cases same
      exact absurd readable' readable
    rw [if_pos readable]
    refine ⟨?_, ?_⟩
    · intro h
      refine ⟨place, node, rfl, readable, ?_⟩
      cases node with
      | socket mode => cases h
      | file mode contents => cases h; exact .file mode contents
      | directory mode => cases h; exact .directory mode
      | fifo mode => cases h; exact .fifo mode
      | device mode => cases h; exact .device mode
      | link target => cases h; exact .link target
    · intro h
      obtain ⟨_, _, same, -, opens⟩ := h
      cases same
      cases opens <;> rfl

/-- The status of what was opened is the status of the path. -/
theorem status_of_openFile {f : OpenFile} (h : t.openFile p = .ok f) : f.status = t.status p := by
  obtain ⟨place, node, found, -, opens⟩ := openFile_eq_ok_iff.mp h
  rw [status_eq_ok_iff.mpr ⟨place, node, found, rfl⟩]
  cases opens <;> rfl

/-- What is shown as a regular file when it is opened can be read, and what is read are the
contents of the file that the path leads to. -/
theorem contents_of_openFile {f : OpenFile} {status : FileStatus} (h : t.openFile p = .ok f)
    (shown : f.status = .ok status) (regular : status.type = .regular) :
    f.readTrouble = none ∧ ∃ place mode, t.resolve p = .ok (place, .file mode f.contents) := by
  obtain ⟨place, node, found, -, opens⟩ := openFile_eq_ok_iff.mp h
  cases opens with
  | file mode contents => exact ⟨rfl, place, mode, found⟩
  | _ => cases shown; cases regular

/-! ## Lists -/

theorem nameIn?_eq_some_iff {entry : List Octets × Node} {name : Octets} :
    nameIn? place entry = some name ↔ entry.1 = name :: place := by
  obtain ⟨_ | ⟨first, parent⟩, node⟩ := entry
  · exact ⟨nofun, nofun⟩
  · simp only [nameIn?, Option.ite_none_right_eq_some, Option.some.injEq, List.cons.injEq]
    exact and_comm

theorem node?_isSome_iff : (t.node? place).isSome = true ↔ ∃ node, (place, node) ∈ t.nodes := by
  unfold node?
  induction t.nodes with
  | nil => simp
  | cons entry rest ih =>
    obtain ⟨other, node⟩ := entry
    rw [List.lookup_cons]
    by_cases same : place = other
    · subst same
      simp only [BEq.rfl, Option.isSome_some, true_iff]
      exact ⟨node, List.mem_cons_self⟩
    · have differs : (place == other) = false := by simpa using same
      simp [differs, ih, same]

/-- The names of what is in a directory, in the order of their octets. -/
structure Names (t : FileTree) (place names : List Octets) : Prop where
  ascending : names.Pairwise (· < ·)
  mem_iff : ∀ name, name ∈ names ↔ (t.node? (name :: place)).isSome = true

theorem names_list (t : FileTree) (place : List Octets) :
    t.Names place ((t.nodes.filterMap (nameIn? place)).eraseDups.mergeSort Octets.le) where
  ascending := Octets.pairwise_lt_mergeSort _
  mem_iff := by
    intro name
    rw [List.mem_mergeSort, List.mem_eraseDups, List.mem_filterMap, node?_isSome_iff]
    refine ⟨?_, ?_⟩
    · intro h
      obtain ⟨⟨found, node⟩, mem, named⟩ := h
      obtain rfl : found = name :: place := nameIn?_eq_some_iff.mp named
      exact ⟨node, mem⟩
    · intro h
      obtain ⟨node, mem⟩ := h
      exact ⟨_, mem, nameIn?_eq_some_iff.mpr rfl⟩

theorem Names.unique {names names' : List Octets} (h : t.Names place names)
    (h' : t.Names place names') : names = names' := by
  apply h.ascending.eq_of_mem_iff h'.ascending
  intro name
  rw [h.mem_iff, h'.mem_iff]

/-- A directory that may be read is listed by the names of what is in it, each of them once
and in ascending order. -/
theorem list_eq_ok_iff {names : List Octets} :
    t.list p = .ok names ↔ ∃ place mode, t.resolve p = .ok (place, .directory mode) ∧
      isReadable (Node.directory mode).mode = true ∧ t.Names place names := by
  unfold list Node.checkReadable
  cases t.resolve p with
  | error e => exact ⟨nofun, fun ⟨_, _, h, _⟩ => nomatch h⟩
  | ok found =>
    obtain ⟨place, node⟩ := found
    cases node with
    | directory mode =>
      simp only [bind, Except.bind]
      by_cases readable : isReadable (Node.directory mode).mode = true
      case neg =>
        rw [if_neg readable]
        refine ⟨nofun, ?_⟩
        intro h
        obtain ⟨_, _, same, readable', _⟩ := h
        cases same
        exact absurd readable' readable
      rw [if_pos readable]
      refine ⟨?_, ?_⟩
      · intro h
        cases h
        exact ⟨place, mode, rfl, readable, t.names_list place⟩
      · intro h
        obtain ⟨_, _, same, -, named⟩ := h
        cases same
        exact congrArg Except.ok ((t.names_list place).unique named)
    | _ => exact ⟨nofun, fun ⟨_, _, h, _⟩ => nomatch h⟩

/-- A slash at the end of a path asks for a directory, but it does not lead elsewhere. -/
theorem walk_of_append_nil {links : Nat} {start before : List Octets}
    (h : t.walk admits links start (before ++ [[]]) = .ok place) :
    t.walk admits links start before = .ok place := by
  obtain ⟨⟨left, reached, rest⟩, goes, done | ⟨e, halt⟩⟩ :=
    t.exists_end admits ⟨links, start, before⟩
  · subst done
    rw [walk_append goes] at h
    rw [walk_of_steps goes, ← h]
    by_cases directory : ∃ mode, t.node? reached = some (.directory mode)
    · obtain ⟨mode, directory⟩ := directory
      exact (walk_of_step (.stay directory)).symm
    · have halts : t.walk admits left reached [[]] = .error .notADirectory :=
        walk_of_halt (.noDirectory fun mode h => directory ⟨mode, h⟩)
      rw [halts] at h
      cases h
  · rw [walk_append_of_halt goes halt] at h
    cases h

theorem find_eq_ok {name : Octets} (filled : p.octets ≠ []) (fits : Fits (p.child name))
    (found : t.find p = .ok place) :
    t.walk isSearchable linkLimit (origin workplace (p.child name)) p.segments = .ok place := by
  obtain ⟨start, either, spelled⟩ := Path.exists_octets_child p
  have longer : p.octets <+: (p.child name).octets := by
    rw [spelled]
    simp only [List.mem_cons, List.not_mem_nil, or_false] at either
    rcases either with rfl | rfl
    · exact List.prefix_append _ _
    · rw [List.append_assoc]
      exact List.prefix_append _ _
  have fits' : Fits p := by
    refine ⟨?_, ?_⟩
    · exact fun nul => fits.noNul (longer.subset nul)
    · exact Nat.lt_of_le_of_lt longer.length_le fits.short
  have absolute : (p.child name).isAbsolute = p.isAbsolute := by
    obtain ⟨b, bs, octets⟩ := List.exists_cons_of_ne_nil filled
    obtain ⟨more, child⟩ := longer
    rw [Path.isAbsolute, Path.isAbsolute, ← child, octets]
    rfl
  rw [origin, absolute]
  rw [find_of_fits fits'] at found
  exact found

/-- The path of a name in a directory leads to what has that name there. -/
theorem resolve_child {name : Octets} (found : t.find p = .ok place)
    (searched : t.Searched isSearchable place) (there : t.node? (name :: place) = some node)
    (plain : ∀ target, node ≠ .link target) (entry : IsEntry name) (flat : Path.slash ∉ name)
    (filled : p.octets ≠ []) (fits : Fits (p.child name)) :
    t.resolve (p.child name) = .ok (name :: place, node) := by
  have walked := find_eq_ok filled fits found
  obtain ⟨front, segments, below⟩ := Path.segments_child flat filled
  have reached : t.walk isSearchable linkLimit (origin workplace (p.child name)) front =
      .ok place := by
    rcases segments with same | same
    · rw [← same]
      exact walked
    · rw [same] at walked
      exact walk_of_append_nil walked
  obtain ⟨left, goes⟩ := walk_eq_ok_iff.mp reached
  rw [resolve_eq_ok_iff]
  refine ⟨?_, there⟩
  calc t.find (p.child name)
      = t.walk isSearchable linkLimit (origin workplace (p.child name)) (front ++ [name]) := by
        rw [find_of_fits fits, below]
    _ = t.walk isSearchable left place [name] := walk_append goes [name]
    _ = t.walk isSearchable left (name :: place) [] :=
        walk_of_step (.down searched entry there plain)
    _ = .ok (name :: place) := by rw [walk]

end SubordinateIds.FileTree
