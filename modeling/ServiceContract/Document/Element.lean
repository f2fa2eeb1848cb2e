import ServiceContract.Keyed

/-!
# Elements of a contract

The typed elements of a Swagger 2.0 document as far as descriptors depend on them: parameters,
schemas, responses, security schemes and requirements, operations and path items.
-/

namespace ServiceContract

/-- Where a parameter travels. -/
inductive ParameterLocation where
  | query
  | header
  | path
  | formData
  | body
  | other
  deriving DecidableEq, Repr, Inhabited

namespace ParameterLocation

/-- The location's word in documents and descriptors. -/
def name : ParameterLocation → String
  | query => "query"
  | header => "header"
  | path => "path"
  | formData => "formData"
  | body => "body"
  | other => "other"

/-- The location a word stands for; an unknown word is `other`. -/
def ofName (word : String) : ParameterLocation :=
  ([query, header, path, formData, body].find? (·.name == word)).getD other

/-- Whether a parameter there travels in the payload or in the query. -/
def isPayload : ParameterLocation → Bool
  | query | formData | body => true
  | header | path | other => false

end ParameterLocation

/-- The part of a schema that descriptors look at. -/
inductive Schema where
  | mk (reference : Option String) (type : Option String) (items : Option Schema)
  deriving Repr, Inhabited

namespace Schema

/-- The schema that says nothing. -/
def blank : Schema := ⟨none, none, none⟩

/-- The pointer the schema consists of. -/
def reference : Schema → Option String
  | mk reference _ _ => reference

/-- The schema's type name. -/
def type : Schema → Option String
  | mk _ type _ => type

/-- The schema of an array's items. -/
def items : Schema → Option Schema
  | mk _ _ items => items

end Schema

/-- What an array parameter outside a body says of its items. -/
structure Items where
  type : Option String := none
  deriving DecidableEq, Repr, Inhabited

/-- A parameter, declared in place or as a reference. -/
structure Parameter where
  reference : Option String := none
  name : Option String := none
  location : Option ParameterLocation := none
  required : Bool := false
  type : Option String := none
  items : Option Items := none
  schema : Option Schema := none
  deriving Repr, Inhabited

namespace Parameter

/-- The pointer the parameter carries, its own or its schema's. -/
def pointer (p : Parameter) : Option String :=
  p.reference <|> p.schema.bind Schema.reference

/-- The type the parameter states in place: its own, or that of a schema that is no reference. -/
def inlineType (p : Parameter) : Option String :=
  p.type <|> (p.schema.filter fun s => s.reference.isNone).bind Schema.type

/-- The type of the items of an array stated in place. -/
def itemType (p : Parameter) : Option String :=
  p.items.bind Items.type <|> (p.schema.bind Schema.items).bind Schema.type

end Parameter

/-- A declared response. -/
structure Response where
  description : Option String := none
  schema : Option Schema := none
  deriving Repr, Inhabited

/-- Where an API key travels. -/
inductive KeyLocation where
  | header
  | query
  | other
  deriving DecidableEq, Repr, Inhabited

namespace KeyLocation

/-- The location's word in documents. -/
def name : KeyLocation → String
  | header => "header"
  | query => "query"
  | other => "other"

/-- The location a word stands for; an unknown word is `other`. -/
def ofName (word : String) : KeyLocation :=
  ([header, query].find? (·.name == word)).getD other

end KeyLocation

/-- A way of authenticating a request. -/
inductive SecurityScheme where
  | apiKey (name : String) (location : KeyLocation)
  | basic
  | oauth2
  | other
  deriving DecidableEq, Repr, Inhabited

/-- The header a scheme's key travels in, for schemes that use one. -/
def SecurityScheme.headerName : SecurityScheme → Option String
  | apiKey name .header => some name
  | _ => none

/-- A security requirement: scopes by scheme name. -/
abbrev SecurityRequirement := Keyed (List String)

/-- An operation as declared under a path and a method. -/
structure Operation where
  operationId : Option String := none
  summary : Option String := none
  parameters : List Parameter := []
  responses : Keyed Response := Keyed.empty
  /-- The operation's own requirements. An empty list opts out of the document's. -/
  security : Option (List SecurityRequirement) := none
  deriving Inhabited

/-- A path's shared parameters and its operations by lower-case method name. Methods that no
descriptor is built for are kept. -/
structure PathItem where
  parameters : List Parameter := []
  operations : Keyed Operation := Keyed.empty
  deriving Inhabited

end ServiceContract
