import ServiceContract.Command.Arguments
import ServiceContract.Command.Files
import ServiceContract.Generate
import ServiceContract.Settings.Text
import ServiceContract.Source
import ServiceContract.Summary

/-!
# Running commands

A command reads the document, then its settings, walks the document, and shows or writes what comes
out. It stops at the first step that fails, so nothing is written unless all before has succeeded.
-/

namespace ServiceContract

/-- What a program leaves behind besides files. -/
structure Outcome where
  exit : Nat
  output : String := ""
  errors : String := ""
  deriving DecidableEq, Repr

/-- A step of a command that may fail. -/
abbrev Step (m : Type → Type) := ExceptT CommandFailure m

variable {m : Type → Type} [Monad m]

/-- The settings with the options of a command line put over them. -/
def WalkOptions.override (o : WalkOptions) (s : Settings) : Settings :=
  { s with
    defaultSuccessType := o.defaultSuccessType.getD s.defaultSuccessType
    defaultErrorType := o.defaultErrorType.getD s.defaultErrorType
    generateRequestTypes := s.generateRequestTypes && !o.noRequestTypes
    generateResponseDecoders := s.generateResponseDecoders && !o.noResponseDecoders
    strictInterfaces := s.strictInterfaces || o.strictInterfaces }

/-- Logs records in order. -/
def Files.logAll (files : Files m) (records : List LogRecord) : Step m Unit :=
  ExceptT.lift (records.forM files.log)

/-- Reads a file and parses its text. -/
def Files.load {ε α : Type} (files : Files m) (path : String) (parse : String → Except ε α)
    (unread : String → CommandFailure) (unfit : ε → CommandFailure) : Step m α := do
  match ← files.readText path with
  | .error detail => throw (unread detail)
  | .ok text =>
    match parse text with
    | .error cause => throw (unfit cause)
    | .ok value => pure value

/-- Reads the document. -/
def loadSource (files : Files m) (path : String) : Step m Source := do
  let report ← files.load path Source.parse (fun detail => .core (.io detail)) .core
  files.logAll report.findings.log
  pure report.value

/-- Reads the settings of a file. -/
def loadSettings (files : Files m) (path : String) : Step m Settings :=
  files.load path Settings.ofText .io fun fault => .badSettings path fault.message

/-- The settings that a command runs under. -/
def WalkOptions.settings (files : Files m) (o : WalkOptions) : Step m Settings := do
  match o.config with
  | none => pure (o.override {})
  | some path => o.override <$> loadSettings files path

/-- Walks the document, which gives the source and all descriptors. -/
def WalkOptions.walk (files : Files m) (o : WalkOptions) : Step m (Source × Generation) := do
  -- a document that cannot be read is reported before settings that cannot
  let source ← loadSource files o.spec
  let settings ← o.settings files
  match generate ⟨source.document, settings, .standard⟩ with
  | .error fault => throw (.core (.version fault))
  | .ok report =>
    files.logAll report.findings.log
    pure (source, report.value)

/-- Writes what comes out of the document through the sink, and returns how many artifacts. -/
def WalkOptions.writeThrough (files : Files m) (sink : Sink m) (o : WalkOptions)
    (snapshot : Option String) : Step m Nat := do
  let (source, generation) ← o.walk files
  let snapshot := snapshot.map fun destination => (⟨source.raw, destination⟩ : Snapshot)
  let written ← ExceptT.mk (writeArtifacts sink generation snapshot)
  ExceptT.lift (files.log ⟨.info,
    "Wrote " ++ toString written ++ " artifacts ("
      ++ toString generation.diagnostics.length ++ " diagnostics)"⟩)
  pure written

/-- Runs a command. The result is what it prints. -/
def Invocation.run (files : Files m) : Invocation → Step m String
  | .inspect options => do
    let (_, generation) ← options.walk files
    pure generation.summary
  | .generate options outDir snapshot => do
    let _ ← options.writeThrough files (files.sink outDir) snapshot
    pure ("Descriptors generated in " ++ Text.quoted outDir ++ "\n")

/-- What the program says its version is. -/
def versionText : String := "swagger-desc-cli 0.1.0\n"

/-- How the program is used. -/
def usageText : String :=
  "Swagger 2.0 descriptor generator\n\nUsage: swagger-desc <generate|inspect> --spec <SPEC>\n"

/-- Runs the program on a command line. -/
def runCommand (files : Files m) (environment : List (String × String))
    (arguments : List String) : m Outcome := do
  match Arguments.read environment arguments with
  | .error .help => pure { exit := 0, output := usageText }
  | .error .version => pure { exit := 0, output := versionText }
  | .error .usage => pure { exit := 2, errors := usageText }
  | .ok invocation =>
    match ← (invocation.run files).run with
    | .ok output => pure { exit := 0, output }
    | .error failure => pure { exit := 1, errors := "Error: " ++ failure.inspected ++ "\n" }

end ServiceContract
