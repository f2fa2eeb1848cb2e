import ServiceContract.Path
import ServiceContract.Text.Utf8

/-!
# File trees

A `FileTree` holds files and directories by their location below a common root. It answers paths as
a file system does: an absolute path leads from the root, any other from the working directory. All
components but the last have to lead through directories, and a file cannot take the place of a
directory, nor a directory that of a file.
-/

namespace ServiceContract

/-- The names on the way from the root. -/
abbrev Location := List String

/-- What stands at a location. -/
inductive FileTree.Entry where
  | directory
  | file (bytes : List UInt8)
  deriving DecidableEq, Repr, Inhabited

/-- Files and directories by location. The root is always a directory. -/
structure FileTree where
  entries : List (Location × FileTree.Entry) := []
  deriving DecidableEq, Repr, Inhabited

namespace FileTree

/-- The greatest number of bytes in a name. -/
def nameLimit : Nat := 255

/-- The number of bytes that a path cannot reach. -/
def pathLimit : Nat := 4096

/-- Whether files and directories can have the name. -/
def isValidName (name : String) : Bool :=
  name.utf8ByteSize ≤ nameLimit && !name.toList.contains '\x00'

/-- Whether a path's directories can be asked for at all: their names hold no zero character. -/
def isSearchable (way : List Component) : Bool :=
  way.all fun component => !component.text.toList.contains '\x00'

/-- What stands at a location. -/
def entry? (t : FileTree) (place : Location) : Option Entry :=
  if place.isEmpty then some .directory else t.entries.lookup place

/-- The tree with an entry at a location, in the place of a former one. -/
def put (t : FileTree) (place : Location) (e : Entry) : FileTree :=
  ⟨t.entries.filter (·.1 != place) ++ [(place, e)]⟩

/-- The directory that components lead to. -/
def directory? (t : FileTree) (here : Location) : List Component → Option Location
  | [] => some here
  | .root :: rest => t.directory? [] rest
  | .current :: rest => t.directory? here rest
  | .parent :: rest => t.directory? here.dropLast rest
  | .name name :: rest =>
    let next := here ++ [name]
    if t.entry? next = some .directory then t.directory? next rest else none

/-- Makes the directories that components lead through and that are not there yet. The answer is the
tree, and the last directory unless something stands in the way. -/
def makeDirectories (t : FileTree) (here : Location) :
    List Component → FileTree × Option Location
  | [] => (t, some here)
  | .root :: rest => t.makeDirectories [] rest
  | .current :: rest => t.makeDirectories here rest
  | .parent :: rest => t.makeDirectories here.dropLast rest
  | .name name :: rest =>
    let next := here ++ [name]
    match t.entry? next with
    | some .directory => t.makeDirectories next rest
    | some (.file _) => (t, none)
    | none =>
      if isValidName name then (t.put next .directory).makeDirectories next rest else (t, none)

/-- The bytes of the file at a path. -/
def read? (t : FileTree) (working : Location) (path : String) : Option (List UInt8) :=
  if Path.endsInName path && path.utf8ByteSize < pathLimit then
    let components := Path.components path
    match t.directory? working components.dropLast, components.getLast? with
    | some here, some (.name name) =>
      match t.entry? (here ++ [name]) with
      | some (.file bytes) => some bytes
      | _ => none
    | _, _ => none
  else none

/-- Makes the directories on the way to a path's last component. -/
def makeParent (t : FileTree) (working : Location) (path : String) : FileTree × Option Location :=
  let parent := Path.parent path
  let way := Path.components parent
  if parent.utf8ByteSize < pathLimit && isSearchable way then t.makeDirectories working way
  else (t, none)

/-- Writes a file and makes the directories on its way. The answer tells whether the file could be
written; directories stay also if not, even if only the whole path is too long. -/
def write (t : FileTree) (working : Location) (path : String) (bytes : List UInt8) :
    FileTree × Bool :=
  match t.makeParent working path with
  | (t, none) => (t, false)
  | (t, some here) =>
    match Path.endsInName path, (Path.components path).getLast? with
    | true, some (.name name) =>
      let target := here ++ [name]
      if path.utf8ByteSize < pathLimit && isValidName name &&
          t.entry? target != some .directory then
        (t.put target (.file bytes), true)
      else (t, false)
    | _, _ => (t, false)

/-- The tree with the files below the working directory and the directories on their way. -/
def ofFiles (working : Location) (files : List (String × List UInt8)) : FileTree :=
  files.foldl (fun t (path, bytes) => (t.write working path bytes).1)
    (({} : FileTree).makeDirectories [] (working.map .name)).1

/-- The files below a directory, by their path from there. -/
def files (t : FileTree) (below : Location) : List (String × List UInt8) :=
  t.entries.filterMap fun (place, e) =>
    match e with
    | .file bytes =>
      if below.isPrefixOf place then some ("/".intercalate (place.drop below.length), bytes)
      else none
    | .directory => none

end FileTree

end ServiceContract
