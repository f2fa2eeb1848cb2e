import ServiceContract.Document.Basic
import ServiceContract.Text.Quoted

/-!
# Failures

What ends a run. Everything that concerns single elements is a diagnostic instead.
-/

namespace ServiceContract

/-- A failure of reading or of walking a document. -/
inductive Failure where
  /-- A file could not be read or written. -/
  | io (detail : String)
  /-- A text is no document. -/
  | parse (detail : String)
  /-- The document's version is not supported. -/
  | version (fault : VersionFault)
  /-- Anything else. -/
  | general (text : String)
  deriving DecidableEq, Repr

/-- The wording for a user. -/
def Failure.message : Failure → String
  | io detail => "IO Error: " ++ detail
  | parse detail => "Parse Error: " ++ detail
  | version fault =>
    "Unsupported Swagger version: " ++ fault.text ++ ". Only 2.0 is supported."
  | general text => "General Error: " ++ text

/-- The failure as a constructor with its argument. -/
def Failure.inspected : Failure → String
  | io detail => "Io(" ++ detail ++ ")"
  | parse detail => "Parse(" ++ Text.quoted detail ++ ")"
  | version fault => "UnsupportedVersion(" ++ Text.quoted fault.text ++ ")"
  | general text => "General(" ++ Text.quoted text ++ ")"

/-- A failure of a command. -/
inductive CommandFailure where
  /-- A file could not be read or written. -/
  | io (detail : String)
  /-- Reading or walking the document failed. -/
  | core (failure : Failure)
  /-- An artifact could not be put into words. -/
  | serialize (detail : String)
  /-- The settings' text does not give settings. -/
  | badSettings (path detail : String)
  /-- An artifact would be written outside the output directory. -/
  | refused (path root : String)
  /-- Anything else. -/
  | general (text : String)
  deriving DecidableEq, Repr

/-- The words of a failure that is told in words alone. -/
def CommandFailure.words : CommandFailure → String
  | io detail => detail
  | core failure => failure.message
  | serialize detail => detail
  | badSettings path detail => "Invalid config file " ++ Text.quoted path ++ ": " ++ detail
  | refused path root =>
    "Refusing to write " ++ Text.quoted path ++ " outside " ++ Text.quoted root
  | general text => text

/-- The wording for a user. -/
def CommandFailure.message (f : CommandFailure) : String :=
  match f with
  | io _ => "IO Error: " ++ f.words
  | core _ => f.words
  | serialize _ => "Serialization failed: " ++ f.words
  | badSettings _ _ | refused _ _ | general _ => "Operation failed: " ++ f.words

/-- The failure as a constructor with its argument, which is how a command reports it. -/
def CommandFailure.inspected (f : CommandFailure) : String :=
  match f with
  | io detail => "Io(" ++ detail ++ ")"
  | core failure => "Core(" ++ failure.inspected ++ ")"
  | serialize detail => "Serialize(" ++ Text.quoted detail ++ ")"
  | badSettings _ _ | refused _ _ | general _ => "General(" ++ Text.quoted f.words ++ ")"

end ServiceContract
