import ServiceContract.Document.Reading
import ServiceContract.Failure
import ServiceContract.Yaml.Value

/-!
# Documents from text

A source document is the raw value of a text together with its typed view.
-/

namespace ServiceContract

/-- A document and the value it was read from. -/
structure Source where
  raw : Json
  document : Document
  deriving Inhabited

/-- Takes the typed view of a value. -/
def Source.ofJson (raw : Json) : Report Source := (⟨raw, ·⟩) <$> Document.read raw

/-- Reads a document from YAML or JSON text. Only a text that is neither is a failure. -/
def Source.parse (text : String) : Except Failure (Report Source) :=
  match Yaml.readValue text with
  | .ok raw => .ok (Source.ofJson raw)
  | .error fault => .error (.parse fault.message)

end ServiceContract
