import SubordinateIds.Shell.State

/-
  Files — the file tree as a program sees it

  To a program its own streams are files, too: each has a place in a directory of its
  own, and what is there is what the stream leads to.
-/

namespace SubordinateIds.Shell

namespace State

/-- The location of a stream among the files. -/
def streamPlace (stream : Nat) : List Octets :=
  Octets.ofChars (Nat.toDigits 10 stream) :: FileTree.streamsPlace

/-- The path from the root to a location. -/
def absolutePath (place : List Octets) : Path :=
  let slash := Octets.ofChars ['/']
  ⟨slash ++ (place.reverse.flatMap fun name => name ++ slash)⟩

/-- The files as the program sees them, its own streams among them. -/
def files (st : State) : FileTree :=
  st.streams.foldl
    (fun t e =>
      match e.2 with
      | .closed => t
      | .nothing _ _ => t.insert (streamPlace e.1) (.link ⟨Octets.ofChars "/dev/null".toList⟩)
      | .directory place => t.insert (streamPlace e.1) (.link (absolutePath place))
      | .full => t.insert (streamPlace e.1) (.link ⟨Octets.ofChars "/dev/full".toList⟩)
      | .reading _ | .writing _ => t.insert (streamPlace e.1) (.fifo 0o600))
    st.tree

/-- What a path leads to. An empty one leads nowhere. -/
def resolve (st : State) (text : String) : Except SystemError (List Octets × FileTree.Node) :=
  if text = "" then .error .notFound else st.files.resolve (st.path text)

/-- The channel to what a path leads to, if that is one of the streams. -/
def channelAt? (st : State) (place : List Octets) : Option Channel :=
  (st.streams.find? fun e => streamPlace e.1 == place).map (·.2)

/-- What can be read in what a path leads to, and the state after it was read. -/
def readFile (st : State) (text : String) : Except SystemError (List Char × State) := do
  let (place, _) ← st.resolve text
  match st.channelAt? place with
  | some (.reading text) => return (st.textAt text, st.withText text [])
  | _ =>
    let file ← st.files.openFile (st.path text)
    match file.readTrouble with
    | some (_, error) => throw error
    | none => return (file.contents.map (fun b => Char.ofNat b.toNat), st)

end State

end SubordinateIds.Shell
