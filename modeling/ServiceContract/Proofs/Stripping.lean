import ServiceContract.Document.Reading
import ServiceContract.Json.Keys

/-!
# Documents without what does not fit

`Json.stripped` takes out of a raw document what its typed view has no place for: every part that is
neither null nor of the expected kind, every path item that is no object, and every parameter,
response, security scheme and security requirement that its reader refuses. All else stays as it is
and where it is.

What is taken out is listed in the order in which a document is read: part by part, and in each part
as it stands there. A part or element in the list is given by the diagnostic that names it.
-/

namespace ServiceContract

/-- What is left of a value, and what was taken out of it. -/
structure Stripped (α : Type) where
  rest : α
  removed : List Diagnostic := []

/-- Strips the items one by one. -/
def stripEach {α β : Type} (strip : α → Stripped (Option β)) (items : List α) :
    Stripped (List β) where
  rest := items.filterMap fun item => (strip item).rest
  removed := items.flatMap fun item => (strip item).removed

section Parts

variable {α : Type} (read : Json → Except Mismatch α) (part : Subject) (scope : String)

/-- An element of a list stays if it fits. -/
def stripElement (element : Json × Nat) : Stripped (Option Json) :=
  match read element.1 with
  | .ok _ => ⟨some element.1, []⟩
  | .error cause => ⟨none, [⟨scope, .badElement part element.2 cause⟩]⟩

/-- A part that has to be a list stays if it is one or null, without the elements that do not
fit. -/
def stripSequence : Json → Stripped (Option Json)
  | .null => ⟨some .null, []⟩
  | .array items =>
    let elements := stripEach (stripElement read part scope) items.zipIdx
    ⟨some (.array elements.rest), elements.removed⟩
  | .bool _ | .number _ | .string _ | .object _ => ⟨none, [⟨scope, .notList part⟩]⟩

/-- An entry of an object stays if its value fits. -/
def stripEntry (entry : String × Json) : Stripped (Option (String × Json)) :=
  match read entry.2 with
  | .ok _ => ⟨some entry, []⟩
  | .error cause => ⟨none, [⟨scope, .badEntry part entry.1 cause⟩]⟩

/-- A part that has to be an object stays if it is one or null, with its members stripped one by
one. -/
def stripObject (strip : String × Json → Stripped (Option (String × Json))) :
    Json → Stripped (Option Json)
  | .null => ⟨some .null, []⟩
  | .object members =>
    let entries := stripEach strip members
    ⟨some (.object entries.rest), entries.removed⟩
  | .bool _ | .number _ | .string _ | .array _ => ⟨none, [⟨scope, .notObject part⟩]⟩

/-- The same for a part whose entries have to fit. -/
def stripTable : Json → Stripped (Option Json) :=
  stripObject part scope (stripEntry read part scope)

end Parts

/-- The parts of an object under their keys, in the order of reading, with the way to strip each. -/
abbrev PartStrips := List (String × (Json → Stripped (Option Json)))

/-- Strips the members of an object that are parts. -/
def stripParts (parts : PartStrips) (members : List (String × Json)) :
    Stripped (List (String × Json)) where
  rest := members.filterMap fun member =>
    match parts.lookup member.1 with
    | none => some member
    | some strip => (strip member.2).rest.map (member.1, ·)
  removed := parts.flatMap fun (key, strip) =>
    match members.lookup key with
    | none => []
    | some value => (strip value).removed

/-! ## Operations and path items -/

/-- The parts of an operation. -/
def operationParts (scope : String) : PartStrips := [
  ("parameters", stripSequence Parameter.read .parameter scope),
  ("responses", stripTable Response.read .response scope),
  ("security", stripSequence SecurityRequirement.read .securityRequirement scope)]

/-- Strips an operation. -/
def stripOperation (method path : String) (members : List (String × Json)) :
    Stripped (List (String × Json)) :=
  let operationId := (members.lookup "operationId").bind Json.text?
  stripParts (operationParts (operationId.getD (operationLabel method path))) members

/-- Strips a member of a path item. Only its parameters and its operations have parts. -/
def stripMember (path : String) (member : String × Json) : Stripped (Option (String × Json)) :=
  match ItemEntry.of member.1 member.2, member.2 with
  | .parameters, value =>
    let parameters := stripSequence Parameter.read .pathParameter path value
    ⟨parameters.rest.map (member.1, ·), parameters.removed⟩
  | .operation method, .object members =>
    let operation := stripOperation method path members
    ⟨some (member.1, .object operation.rest), operation.removed⟩
  | _, _ => ⟨some member, []⟩

/-- A path item stays if it is an object, with its members stripped. -/
def stripPath (entry : String × Json) : Stripped (Option (String × Json)) :=
  match entry.2 with
  | .object members =>
    let item := stripEach (stripMember entry.1) members
    ⟨some (entry.1, .object item.rest), item.removed⟩
  | .null | .bool _ | .number _ | .string _ | .array _ =>
    ⟨none, [⟨entry.1, .pathItemNotObject⟩]⟩

/-! ## Documents -/

/-- The parts of a document. Of the definitions only the kind matters. -/
def documentParts : PartStrips := [
  ("paths", stripObject .paths documentScope stripPath),
  ("definitions", stripObject .definitions documentScope fun entry => ⟨some entry, []⟩),
  ("parameters", stripTable Parameter.read .parameter documentScope),
  ("securityDefinitions", stripTable SecurityScheme.read .securityScheme documentScope),
  ("security", stripSequence SecurityRequirement.read .securityRequirement documentScope)]

/-- Strips a raw document. A value that is no object has no parts. -/
def Json.stripped : Json → Stripped Json
  | .object members =>
    let document := stripParts documentParts members
    ⟨.object document.rest, document.removed⟩
  | value => ⟨value, []⟩

end ServiceContract
