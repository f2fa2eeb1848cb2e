import ServiceContract.Descriptor
import ServiceContract.Failure
import ServiceContract.Json.Layout
import ServiceContract.Path
import ServiceContract.Report

/-!
# Artifacts

A run is written as one file for each model, one for all operations, and on request a copy of the
document. Where the files go is a `Sink`. Writing stops at the first file that the sink does not
take.
-/

namespace ServiceContract

/-- A file to write. -/
structure Artifact where
  path : String
  contents : String
  deriving DecidableEq, Repr, Inhabited

/-- A place that takes files and log records. -/
structure Sink (m : Type → Type) where
  write : Artifact → m (Except CommandFailure Unit)
  log : LogRecord → m Unit

/-- The directory of the model files. -/
def definitionsDirectory : String := "definitions"

/-- The file of a model. -/
def ModelDescriptor.artifact (model : ModelDescriptor) : Artifact :=
  ⟨Path.join definitionsDirectory (model.name ++ ".json"), model.toJson.pretty⟩

/-- The file of all operations, which also lists their imports. -/
def Generation.operationsArtifact (g : Generation) : Artifact :=
  ⟨"operations.json", (Json.object [
    ("imports", .texts g.imports.names),
    ("operations", .array (g.operations.map OperationDescriptor.toJson))]).pretty⟩

/-- A copy of a document, asked for at some path. -/
structure Snapshot where
  raw : Json
  destination : String

/-- The file of the copy. -/
def Snapshot.artifact (s : Snapshot) : Artifact := ⟨s.destination, s.raw.pretty⟩

variable {m : Type → Type} [Monad m]

/-- Writes the files of those models whose names can be file names, and returns how many. -/
def writeModels (sink : Sink m) (written : Nat) :
    List ModelDescriptor → m (Except CommandFailure Nat)
  | [] => pure (.ok written)
  | model :: rest =>
    if Path.isFileStem model.name then do
      match ← sink.write model.artifact with
      | .ok () => writeModels sink (written + 1) rest
      | .error failure => pure (.error failure)
    else do
      sink.log ⟨.warn,
        "[" ++ model.name ++ "] skipped model artifact: name is not a plain file name"⟩
      writeModels sink written rest

/-- Writes all files of a run and returns how many, or the failure of the first that could not be
written. -/
def writeArtifacts (sink : Sink m) (g : Generation) (snapshot : Option Snapshot) :
    m (Except CommandFailure Nat) := do
  match ← writeModels sink 0 g.models with
  | .error failure => pure (.error failure)
  | .ok models =>
    match ← sink.write g.operationsArtifact with
    | .error failure => pure (.error failure)
    | .ok () =>
      match snapshot with
      | none => pure (.ok (models + 1))
      | some snapshot =>
        match ← sink.write snapshot.artifact with
        | .error failure => pure (.error failure)
        | .ok () => pure (.ok (models + 2))

end ServiceContract
