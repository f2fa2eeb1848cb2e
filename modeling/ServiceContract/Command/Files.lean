import ServiceContract.Artifact
import ServiceContract.FileTree
import ServiceContract.Text.Quoted

/-!
# Files that a command works with

A command reads and writes files through `Files`, so that it can run on a file system as well as on
a `FileTree`. `Files.sink` writes artifacts below a directory and refuses those that would leave
it.
-/

namespace ServiceContract

/-- Access to files. What goes wrong is told in words. -/
structure Files (m : Type → Type) where
  /-- The bytes of a file. -/
  read : String → m (Except String (List UInt8))
  /-- Writes a file, together with the directories on its way. -/
  write : (path contents : String) → m (Except String Unit)
  log : LogRecord → m Unit

variable {m : Type → Type} [Monad m]

/-- The text of a file. -/
def Files.readText (files : Files m) (path : String) : m (Except String String) := do
  match ← files.read path with
  | .error detail => pure (.error detail)
  | .ok bytes =>
    match Text.decode? bytes with
    | some text => pure (.ok (String.ofList text))
    | none => pure (.error "stream did not contain valid UTF-8")

/-- Takes artifacts below `root`. Paths that are not contained are refused before anything is
written. -/
def Files.sink (files : Files m) (root : String) : Sink m where
  write artifact := do
    if Path.isContained artifact.path then
      let target := Path.join root artifact.path
      match ← files.write target artifact.contents with
      | .error detail => pure (.error (.io detail))
      | .ok () =>
        files.log ⟨.debug, "Wrote " ++ Text.quoted target⟩
        pure (.ok ())
    else pure (.error (.refused artifact.path root))
  log := files.log

/-- Files in a tree, seen from a working directory. -/
def FileTree.asFiles (working : Location) : Files (StateM FileTree) where
  read path := do
    match (← get).read? working path with
    | some bytes => pure (.ok bytes)
    | none => pure (.error "cannot be read")
  write path contents := do
    let (tree, written) := (← get).write working path (Text.utf8 contents)
    set tree
    pure (if written then .ok () else .error "cannot be written")
  log _ := pure ()

end ServiceContract
