import ServiceContract.Json.Mismatch

/-!
# Diagnostics

An element that cannot be used is skipped; a `Diagnostic` says which and why. The reasons are the
constructors of `Issue`, their wording is `Issue.message`.
-/

namespace ServiceContract

/-- A part of a document that is read element by element. -/
inductive Subject where
  | paths
  | definitions
  | pathParameter
  | parameter
  | response
  | securityScheme
  | securityRequirement
  deriving DecidableEq, Repr

/-- How messages call the part, or one element of it. -/
def Subject.text : Subject → String
  | paths => "paths"
  | definitions => "definitions"
  | pathParameter => "path parameter"
  | parameter => "parameter"
  | response => "response"
  | securityScheme => "security scheme"
  | securityRequirement => "security requirement"

/-- Why something was skipped, or replaced by a default. -/
inductive Issue where
  /-- A part that has to be an object is something else. -/
  | notObject (part : Subject)
  /-- A part that has to be a list is something else. -/
  | notList (part : Subject)
  /-- A path item is no object. -/
  | pathItemNotObject
  /-- An entry of an object does not fit. -/
  | badEntry (part : Subject) (key : String) (cause : Mismatch)
  /-- An element of a list does not fit. -/
  | badElement (part : Subject) (index : Nat) (cause : Mismatch)
  /-- An operation has no id. -/
  | noOperationId
  /-- An operation's method is none that descriptors are built for. -/
  | unsupportedMethod (method path : String)
  /-- An operation's id was taken by an earlier one. -/
  | duplicateOperationId (method path : String)
  /-- A parameter states its type in place but has no name. -/
  | unnamedParameter
  /-- A parameter has neither type nor reference. -/
  | untypedParameter (label : String)
  /-- A parameter's pointer has not the form of a reference. -/
  | unresolvableReference (label pointer : String)
  /-- A parameter refers to a definition that the document has not. -/
  | unknownDefinition (label name : String)
  /-- A parameter refers to a shared parameter that the document has not. -/
  | unknownSharedParameter (name : String)
  /-- A shared parameter has neither a type nor a reference to a known definition. -/
  | untypedSharedParameter (name : String)
  /-- A parameter refers into a part that holds neither definitions nor parameters. -/
  | foreignReference (label pointer : String)
  /-- A response refers to a definition that the document has not. -/
  | unknownResponseDefinition (status name : String)
  /-- A response's pointer refers to no definition. -/
  | unusableResponseReference (status pointer : String)
  /-- A caller's own words. -/
  | remark (text : String)
  deriving DecidableEq, Repr

/-- The wording of the reason. -/
def Issue.message : Issue → String
  | notObject part => "skipped '" ++ part.text ++ "': not an object"
  | notList part => "skipped '" ++ part.text ++ "' list: not an array"
  | pathItemNotObject => "skipped path item: not an object"
  | badEntry part key cause => "skipped " ++ part.text ++ " '" ++ key ++ "': " ++ cause.message
  | badElement part index cause =>
    "skipped " ++ part.text ++ " #" ++ toString index ++ ": " ++ cause.message
  | noOperationId => "skipped operation without operationId"
  | unsupportedMethod method path => "skipped unsupported method '" ++ method ++ "' on " ++ path
  | duplicateOperationId method path =>
    "skipped duplicate operationId on " ++ method ++ " " ++ path
  | unnamedParameter => "skipped inline parameter without a name"
  | untypedParameter label => "skipped parameter '" ++ label ++ "': no type and no reference"
  | unresolvableReference label pointer =>
    "skipped parameter '" ++ label ++ "': unresolvable reference '" ++ pointer ++ "'"
  | unknownDefinition label name =>
    "skipped parameter '" ++ label ++ "': unknown definition '" ++ name ++ "'"
  | unknownSharedParameter name => "skipped parameter: unknown shared parameter '" ++ name ++ "'"
  | untypedSharedParameter name =>
    "skipped parameter: shared parameter '" ++ name ++ "' has no resolvable type"
  | foreignReference label pointer =>
    "skipped parameter '" ++ label ++ "': reference '" ++ pointer
      ++ "' is neither a definition nor a parameter"
  | unknownResponseDefinition status name =>
    "response " ++ status ++ ": unknown definition '" ++ name ++ "', using default type"
  | unusableResponseReference status pointer =>
    "response " ++ status ++ ": unusable reference '" ++ pointer ++ "', using default type"
  | remark text => text

/-- An issue and the element it belongs to: an operation id, a path, or a part of the document. -/
structure Diagnostic where
  scope : String
  issue : Issue
  deriving DecidableEq, Repr

namespace Diagnostic

/-- The wording of the issue. -/
def message (d : Diagnostic) : String := d.issue.message

/-- The diagnostic on one line. -/
def text (d : Diagnostic) : String := "[" ++ d.scope ++ "] " ++ d.message

end Diagnostic

end ServiceContract
