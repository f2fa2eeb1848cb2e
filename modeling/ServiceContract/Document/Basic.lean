import ServiceContract.Document.Element
import ServiceContract.Diagnostic

/-!
# Documents

A `Document` is the typed view of a Swagger 2.0 document whose references into other files have been
resolved. It holds what descriptors are built from, and what had to be skipped when it was read.
-/

namespace ServiceContract

/-- The typed view of a document. -/
structure Document where
  /-- The marker `swagger`. -/
  swagger : Option String := none
  /-- The marker `openapi` of later versions, which only the version check looks at. -/
  openapi : Option String := none
  paths : Keyed PathItem := Keyed.empty
  /-- Model schemas, handed on as they are. -/
  definitions : Keyed Json := Keyed.empty
  /-- Shared parameters, if the document has a part for them. -/
  parameters : Option (Keyed Parameter) := none
  securitySchemes : Keyed SecurityScheme := Keyed.empty
  /-- The requirements of operations that declare none of their own. -/
  security : Option (List SecurityRequirement) := none
  /-- What was skipped on reading. -/
  diagnostics : List Diagnostic := []
  deriving Inhabited

/-- Why a document's version is not the supported one. -/
inductive VersionFault where
  /-- The marker `swagger` has another value. -/
  | declared (version : String)
  /-- There is only a marker `openapi`. -/
  | openapi (version : String)
  /-- There is no marker. -/
  | unmarked
  deriving DecidableEq, Repr

/-- What a message says of the version. -/
def VersionFault.text : VersionFault → String
  | declared version => version
  | openapi version => "openapi " ++ version
  | unmarked => "missing 'swagger' version field"

/-- An operation with the place where it is declared. -/
structure Declaration where
  path : String
  item : PathItem
  method : String
  operation : Operation
  deriving Inhabited

namespace Document

/-- The only version that descriptors are built for. -/
def supportedVersion : String := "2.0"

/-- Accepts the document if it declares the supported version. -/
def checkVersion (d : Document) : Except VersionFault Unit :=
  match d.swagger, d.openapi with
  | some v, _ => if v = supportedVersion then .ok () else .error (.declared v)
  | none, some v => .error (.openapi v)
  | none, none => .error .unmarked

/-- Whether `name` is a model of the document. -/
def defines (d : Document) (name : String) : Bool := d.definitions.contains name

/-- The shared parameter `name`. -/
def sharedParameter? (d : Document) (name : String) : Option Parameter :=
  d.parameters.bind (·.get? name)

/-- All operations in the order of their declaration. -/
def declarations (d : Document) : List Declaration :=
  d.paths.entries.flatMap fun (path, item) =>
    item.operations.entries.map fun (method, operation) => ⟨path, item, method, operation⟩

end Document

end ServiceContract
