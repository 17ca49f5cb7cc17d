import SubordinateIds.Shell.Files
import SubordinateIds.Shell.Pattern

/-
  Matching — the paths that a pattern stands for

  A pattern of paths is taken segment by segment. A segment that is a pattern stands
  for the names in the directory before it that fit, hidden ones only if its own first
  character is a dot; any other segment stands for itself.
-/

namespace SubordinateIds.Shell

/-- The segments of a pattern of paths. -/
def segmentsOf (chars : List (Char × Bool)) : List (List (Char × Bool)) :=
  chars.splitOnP (·.1 == '/')

/-- Whether a segment is a pattern. A bracket that is not closed makes it none. -/
def isWild : List (Char × Bool) → Bool
  | [] => false
  | ('*', true) :: _ | ('?', true) :: _ => true
  | ('[', true) :: rest =>
    let members := if rest.head? = some ('!', true) then rest.tail else rest
    members.tail.elem (']', true) || isWild rest
  | _ :: rest => isWild rest

/-- The text of characters of a pattern. -/
def plain (chars : List (Char × Bool)) : String := String.ofList (chars.map (·.1))

/-- Whether there is something at a path, be it a link that leads nowhere. -/
def State.isThere (st : State) (path : String) : Bool :=
  if path.endsWith "/" then (st.resolve path).isOk
  else
    match st.files.findLast FileTree.isSearchable (st.path path) with
    | .ok place => (st.files.node? place).isSome
    | .error _ => false

/-- The names in the directory with a path, where the empty one is the directory at
hand. -/
def State.namesIn (st : State) (path : String) : List String :=
  match st.files.list (st.path (if path = "" then "." else path)) with
  | .ok names =>
    "." :: ".." :: names.map fun name => String.ofList (name.map fun b => Char.ofNat b.toNat)
  | .error _ => []

/-- The paths that segments stand for behind a path that is there. `found` tells
whether one of the segments before was a pattern. -/
def State.pathsFrom (st : State) (found : Bool) (before : String) :
    List (List (Char × Bool)) → List String
  | [] => if found && st.isThere before then [before] else []
  | segment :: rest =>
    let slash := if rest.isEmpty then "" else "/"
    if !isWild segment then st.pathsFrom found (before ++ plain segment ++ slash) rest
    else
      let hidden := segment.head?.any (·.1 == '.')
      let pattern := Pattern.of segment
      let names := (st.namesIn before).filter fun name =>
        (hidden || !name.startsWith ".") && pattern.fits name.toList
      names.flatMap fun name => st.pathsFrom true (before ++ name ++ slash) rest

/-- The paths that a pattern stands for, in their order. -/
def State.pathsLike (st : State) (chars : List (Char × Bool)) : List String :=
  if !chars.any fun e => e.2 && ['*', '?', '['].elem e.1 then []
  else
    let segments := segmentsOf (Pattern.plainBackslashes chars)
    (st.pathsFrom false "" segments).mergeSort fun a b => a ≤ b

end SubordinateIds.Shell
