import ServiceContract.Document.Basic
import ServiceContract.Document.Decode
import ServiceContract.Naming
import ServiceContract.Report

/-!
# Documents read from JSON

Every element of a document is read on its own. One that does not fit is skipped with a diagnostic
and leaves the others as they are, so reading always gives a document. A part that is absent or null
is not there; one of another kind than expected is skipped as a whole.
-/

namespace ServiceContract

/-- The scope of diagnostics about the parts of a document. -/
def documentScope : String := "document"

/-- The members of a part that has to be an object. -/
def readObject (part : Subject) (scope : String) :
    Option Json → Report (Option (List (String × Json)))
  | none | some .null => pure none
  | some (.object members) => pure (some members)
  | some (.bool _) | some (.number _) | some (.string _) | some (.array _) => do
    Report.warn scope (.notObject part)
    pure none

/-- One entry of an object, if it fits. -/
def readEntry {α : Type} (read : Json → Except Mismatch α) (part : Subject) (scope : String)
    (entry : String × Json) : Report (Option (String × α)) :=
  match read entry.2 with
  | .ok value => pure (some (entry.1, value))
  | .error cause => do
    Report.warn scope (.badEntry part entry.1 cause)
    pure none

/-- The entries of a part that has to be an object, without those that do not fit. -/
def readTable {α : Type} (read : Json → Except Mismatch α) (part : Subject) (scope : String)
    (value : Option Json) : Report (Option (Keyed α)) := do
  match ← readObject part scope value with
  | none => pure none
  | some members =>
    let entries ← Report.keep (readEntry read part scope) members
    pure (some (Keyed.ofList entries))

/-- One element of a list, if it fits. -/
def readElement {α : Type} (read : Json → Except Mismatch α) (part : Subject) (scope : String)
    (element : Json × Nat) : Report (Option α) :=
  match read element.1 with
  | .ok value => pure (some value)
  | .error cause => do
    Report.warn scope (.badElement part element.2 cause)
    pure none

/-- The elements of a part that has to be a list, without those that do not fit. -/
def readSequence {α : Type} (read : Json → Except Mismatch α) (part : Subject) (scope : String) :
    Option Json → Report (Option (List α))
  | none | some .null => pure none
  | some (.array items) => some <$> Report.keep (readElement read part scope) items.zipIdx
  | some (.bool _) | some (.number _) | some (.string _) | some (.object _) => do
    Report.warn scope (.notList part)
    pure none

/-- Only an object is read to its members. -/
theorem value_readObject {part : Subject} {scope : String} {value : Option Json}
    {members : List (String × Json)} :
    (readObject part scope value).value = some members ↔ value = some (.object members) := by
  unfold readObject
  split <;> simp

/-- An element that does not fit gives nothing, and its place among the others is only for the
report. -/
theorem value_readElement {α : Type} (read : Json → Except Mismatch α) (part : Subject)
    (scope : String) (element : Json × Nat) :
    (readElement read part scope element).value = (read element.1).toOption := by
  unfold readElement
  cases read element.1 with
  | ok value => rfl
  | error cause => rfl

/-- A list is read to the elements that fit. -/
theorem value_readSequence_array {α : Type} (read : Json → Except Mismatch α) (part : Subject)
    (scope : String) (items : List Json) :
    (readSequence read part scope (some (.array items))).value =
      some (items.filterMap fun item => (read item).toOption) := by
  have hvalue : (fun element => (readElement read part scope element).value) =
      (fun item => (read item).toOption) ∘ Prod.fst :=
    funext (value_readElement read part scope)
  rw [readSequence, Report.value_map, Report.value_keep, hvalue, ← List.filterMap_map,
    List.zipIdx_map_fst]

/-- A version marker. A value that is no text counts as the text it is written with. -/
def versionMarker : Option Json → Option String
  | none | some .null => none
  | some (.string s) => some s
  | some other => some other.compact

/-- Reads an operation under its lower-case method name. -/
def Operation.read (method path : String) (value : Json) : Report Operation := do
  let operationId := (value.get? "operationId").bind Json.text?
  let scope := operationId.getD (operationLabel method path)
  let parameters ← readSequence Parameter.read .parameter scope (value.get? "parameters")
  let responses ← readTable Response.read .response scope (value.get? "responses")
  let security ←
    readSequence SecurityRequirement.read .securityRequirement scope (value.get? "security")
  pure
    { operationId
      summary := (value.get? "summary").bind Json.text?
      parameters := parameters.getD []
      responses := responses.getD Keyed.empty
      security }

/-- What an entry of a path item is, by its key and value. -/
inductive ItemEntry where
  /-- An extension or a reference, which is passed over. -/
  | ignored
  /-- The parameters that the path's operations share. -/
  | parameters
  /-- An entry that is no object and so no operation. -/
  | foreign
  /-- An operation, under the lower-case name of its method. -/
  | operation (method : String)
  deriving DecidableEq, Repr

/-- Whether `key` belongs to an extension. -/
def isExtension (key : String) : Bool := "x-".toList.isPrefixOf key.toList

/-- Sorts an entry of a path item. -/
def ItemEntry.of (key : String) (value : Json) : ItemEntry :=
  if isExtension key || key == "$ref" then ignored
  else if key = "parameters" then parameters
  else if value.isObject then operation (Text.asciiLower key)
  else foreign

/-- Reads entries of a path item into `acc`. -/
def PathItem.readMembers (path : String) (acc : PathItem) :
    List (String × Json) → Report PathItem
  | [] => pure acc
  | (key, value) :: rest =>
    match ItemEntry.of key value with
    | .ignored => PathItem.readMembers path acc rest
    | .parameters => do
      let parameters ← readSequence Parameter.read .pathParameter path (some value)
      PathItem.readMembers path { acc with parameters := parameters.getD [] } rest
    | .foreign => do
      Report.log .debug ("Ignoring non-object path item entry '" ++ key ++ "'")
      PathItem.readMembers path acc rest
    | .operation method => do
      let operation ← Operation.read method path value
      PathItem.readMembers path
        { acc with operations := acc.operations.insert method operation } rest

/-- Reads a path item. -/
def PathItem.read (path : String) : Json → Report PathItem
  | .object members => PathItem.readMembers path {} members
  | .null | .bool _ | .number _ | .string _ | .array _ => do
    Report.warn path .pathItemNotObject
    pure {}

/-- Reads an entry of the paths. -/
def readPath (entry : String × Json) : Report (String × PathItem) := do
  let item ← PathItem.read entry.1 entry.2
  pure (entry.1, item)

/-- Reads all parts of a document, without keeping the diagnostics in it. -/
def Document.readParts (raw : Json) : Report Document := do
  let paths ← readObject .paths documentScope (raw.get? "paths")
  let paths ← Report.each readPath (paths.getD [])
  let definitions ← readObject .definitions documentScope (raw.get? "definitions")
  let parameters ← readTable Parameter.read .parameter documentScope (raw.get? "parameters")
  let securitySchemes ←
    readTable SecurityScheme.read .securityScheme documentScope (raw.get? "securityDefinitions")
  let security ←
    readSequence SecurityRequirement.read .securityRequirement documentScope (raw.get? "security")
  pure
    { swagger := versionMarker (raw.get? "swagger")
      openapi := versionMarker (raw.get? "openapi")
      paths := Keyed.ofList paths
      definitions := Keyed.ofList (definitions.getD [])
      parameters
      securitySchemes := securitySchemes.getD Keyed.empty
      security }

/-- Reads a document. What was skipped is reported and stays with the document. -/
def Document.read (raw : Json) : Report Document :=
  let parts := Document.readParts raw
  { parts with value := { parts.value with diagnostics := parts.findings.diagnostics } }

end ServiceContract
