import ServiceContract.Decoder
import ServiceContract.HttpMethod
import ServiceContract.NameSet
import ServiceContract.Resolve.Parameters

/-!
# Descriptors

What a run hands on: one descriptor for each accepted operation and one for each model, with their
JSON form.
-/

namespace ServiceContract

/-- Header names as a union of literals; no name at all is `never`. -/
def NameList.unionText (headers : NameList) : String :=
  if headers.isEmpty then "never"
  else " | ".intercalate (headers.names.map fun name => "\"" ++ name ++ "\"")

/-- The description of one operation. -/
structure OperationDescriptor where
  operationId : String
  method : HttpMethod
  path : String
  parameters : List ParameterEntry
  /-- The headers a request carries. -/
  headers : NameList
  responses : List ResponseEntry
  decoders : Option OperationDecoders
  /-- The models that parameters and responses refer to. -/
  imports : ImportSet
  deriving Inhabited

/-- The header names as a type. -/
def OperationDescriptor.headersType (d : OperationDescriptor) : String := d.headers.unionText

/-- A model of the document, handed on as it is. -/
structure ModelDescriptor where
  name : String
  schema : Json
  /-- Whether its interface is emitted in strict mode. -/
  strict : Bool
  deriving DecidableEq, Repr, Inhabited

/-- All that a run hands on. -/
structure Generation where
  models : List ModelDescriptor := []
  operations : List OperationDescriptor := []
  /-- The imports of all operations. -/
  imports : ImportSet := ImportSet.empty
  /-- What was skipped, in the order of discovery. -/
  diagnostics : List Diagnostic := []
  deriving Inhabited

/-- The descriptor of the operation `id`. -/
def Generation.operation? (g : Generation) (id : String) : Option OperationDescriptor :=
  g.operations.find? (·.operationId == id)

/-! ## JSON form -/

/-- A text or null. -/
def Json.ofText? (s : Option String) : Json := Json.orNull (s.map .string)

/-- An entry of the merged parameters as a JSON value. -/
def ParameterEntry.toJson (e : ParameterEntry) : Json := .object [
  ("name", .string e.name),
  ("required", .bool e.required),
  ("type", .string e.type),
  ("location", .string e.location.name)]

/-- A status and its type as a JSON value. -/
def ResponseEntry.toJson (e : ResponseEntry) : Json := .object [
  ("status", .string e.status),
  ("type", .string e.type)]

/-- A codec as a JSON value; `kind` tells the cases apart. -/
def Payload.toJson : Payload → Json
  | .generic => .object [("kind", .string "generic")]
  | .model name => .object [("kind", .string "model"), ("name", .string name)]

/-- The decoder of one status as a JSON value; `kind` tells the cases apart. -/
def StatusDecoder.toJson : StatusDecoder → Json
  | .constant status value => .object [
    ("kind", .string "constant"), ("status", .string status), ("value", .string value)]
  | .basicError status => .object [("kind", .string "basicError"), ("status", .string status)]
  | .io status payload => .object [
    ("kind", .string "io"), ("status", .string status), ("payload", payload.toJson)]

/-- A composed decoder as a JSON value, nested as it is composed. -/
def DecoderTree.toJson : DecoderTree → Json
  | .single decoder => .object [("kind", .string "single"), ("decoder", decoder.toJson)]
  | .compose first otherwise => .object [
    ("kind", .string "compose"), ("first", first.toJson), ("otherwise", otherwise.toJson)]

/-- The decoder declarations of an operation as a JSON value. -/
def OperationDecoders.toJson (d : OperationDecoders) : Json := .object [
  ("decoderName", .string d.decoderName),
  ("defaultDecoderName", .string d.defaultDecoderName),
  ("successStatus", .string d.successStatus),
  ("successType", .string d.successType),
  ("factory", d.factory.toJson),
  ("factoryExpression", .string d.factoryExpression),
  ("defaultExpression", .string d.defaultExpression)]

/-- The description of an operation as a JSON value. Without decoders theirs is null. -/
def OperationDescriptor.toJson (d : OperationDescriptor) : Json := .object [
  ("operationId", .string d.operationId),
  ("method", .string d.method.name),
  ("path", .string d.path),
  ("parameters", .array (d.parameters.map ParameterEntry.toJson)),
  ("headers", .texts d.headers.names),
  ("headersType", .string d.headersType),
  ("responses", .array (d.responses.map ResponseEntry.toJson)),
  ("decoders", .orNull (d.decoders.map OperationDecoders.toJson)),
  ("imports", .texts d.imports.names)]

/-- A model as a JSON value, its schema untouched. -/
def ModelDescriptor.toJson (m : ModelDescriptor) : Json := .object [
  ("name", .string m.name),
  ("schema", m.schema),
  ("strict", .bool m.strict)]

/-- A diagnostic as a JSON value: the issue is given in words. -/
def Diagnostic.toJson (d : Diagnostic) : Json := .object [
  ("scope", .string d.scope),
  ("message", .string d.message)]

/-- All that a run hands on as a JSON value. -/
def Generation.toJson (g : Generation) : Json := .object [
  ("models", .array (g.models.map ModelDescriptor.toJson)),
  ("operations", .array (g.operations.map OperationDescriptor.toJson)),
  ("imports", .texts g.imports.names),
  ("diagnostics", .array (g.diagnostics.map Diagnostic.toJson))]

end ServiceContract
