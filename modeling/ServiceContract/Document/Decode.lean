import ServiceContract.Document.Element
import ServiceContract.Json.Record

/-!
# Elements read from JSON

Each kind of element has one reader from a JSON value. Absent and null fields count as not given,
except that `required` cannot be null; fields nobody asks for are passed over.
-/

namespace ServiceContract

/-- The value that a choice has when it is written as an object with the choice as its only key. -/
def readSingleKey (isUnit : Json → Bool) (members : List (String × Json)) :
    Except Mismatch String :=
  match members with
  | [(word, value)] => if isUnit value then .ok word else .error (.kind value .unit)
  | _ => .error .notSingleKey

/-- Reads the word of a choice: a text, or an object with one key and no value. -/
def readChoice (isUnit : Json → Bool) : Json → Except Mismatch String
  | .string word => .ok word
  | .object members => readSingleKey isUnit members
  | found => .error (.kind found .stringOrMapping)

/-- Reads a parameter's location. -/
def ParameterLocation.read (value : Json) : Except Mismatch ParameterLocation :=
  ParameterLocation.ofName <$> readChoice (· == .null) value

/-- Reads the location of an API key. Here an empty object also counts as no value. -/
def KeyLocation.read (value : Json) : Except Mismatch KeyLocation :=
  KeyLocation.ofName <$> readChoice (fun v => v == .null || v == .object []) value

/-- Reads an optional part with `read`; null is no part. -/
def readOptional {α : Type} (read : Json → Except Mismatch α) : Json → Except Mismatch (Option α)
  | .null => .ok none
  | value => some <$> read value

mutual

/-- Reads a schema. -/
def Schema.read : Json → Except Mismatch Schema
  | .object members => Schema.readMembers Schema.blank members
  | .array items => Schema.readList items
  | found => .error (.kind found (.record "Schema"))

/-- Reads members into the schema. -/
def Schema.readMembers (acc : Schema) : List (String × Json) → Except Mismatch Schema
  | [] => .ok acc
  | (key, value) :: rest => do
    let next ←
      if key = "$ref" then
        (fun reference => .mk reference acc.type acc.items) <$> value.readText?
      else if key = "type" then
        (fun type => .mk acc.reference type acc.items) <$> value.readText?
      else if key = "items" then
        (fun items => .mk acc.reference acc.type items) <$> Schema.readItems value
      else .ok acc
    Schema.readMembers next rest

/-- Reads a schema from the list of its three fields. -/
def Schema.readList : List Json → Except Mismatch Schema
  | [] => .error (.listTooShort 0 "Schema" 3)
  | [reference] => do
    let _ ← reference.readText?
    .error (.listTooShort 1 "Schema" 3)
  | [reference, type] => do
    let _ ← reference.readText?
    let _ ← type.readText?
    .error (.listTooShort 2 "Schema" 3)
  | reference :: type :: items :: extra => do
    let reference ← reference.readText?
    let type ← type.readText?
    let items ← Schema.readItems items
    if extra.isEmpty then .ok (.mk reference type items)
    else .error (.listTooLong (3 + extra.length))

/-- Reads the schema of an array's items; null is none. -/
def Schema.readItems : Json → Except Mismatch (Option Schema)
  | .null => .ok none
  | .bool b => .error (.kind (.bool b) (.record "Schema"))
  | .number n => .error (.kind (.number n) (.record "Schema"))
  | .string s => .error (.kind (.string s) (.record "Schema"))
  | .object members => some <$> Schema.readMembers Schema.blank members
  | .array items => some <$> Schema.readList items

end

/-- The form of an array's item description. -/
def Items.record : Record Items where
  title := "Items"
  blank := {}
  fields := [{ name := "type", read := fun v i => do .ok { i with type := ← v.readText? } }]

/-- The form of a parameter. -/
def Parameter.record : Record Parameter where
  title := "Parameter"
  blank := {}
  fields := [
    { name := "$ref", read := fun v p => do .ok { p with reference := ← v.readText? } },
    { name := "name", read := fun v p => do .ok { p with name := ← v.readText? } },
    { name := "in",
      read := fun v p => do .ok { p with location := ← readOptional ParameterLocation.read v } },
    { name := "required", omissible := true,
      read := fun v p => do .ok { p with required := ← v.readBool } },
    { name := "type", read := fun v p => do .ok { p with type := ← v.readText? } },
    { name := "items",
      read := fun v p => do .ok { p with items := ← readOptional Items.record.read v } },
    { name := "schema",
      read := fun v p => do .ok { p with schema := ← readOptional Schema.read v } }]

/-- Reads a parameter. -/
def Parameter.read : Json → Except Mismatch Parameter := Parameter.record.read

/-- The form of a response. -/
def Response.record : Record Response where
  title := "Response"
  blank := {}
  fields := [
    { name := "description", read := fun v r => do .ok { r with description := ← v.readText? } },
    { name := "schema",
      read := fun v r => do .ok { r with schema := ← readOptional Schema.read v } }]

/-- Reads a response. -/
def Response.read : Json → Except Mismatch Response := Response.record.read

/-! ## Security -/

/-- The kinds of security scheme that a document can name. -/
inductive SchemeKind where
  | apiKey
  | basic
  | oauth2
  | other
  deriving DecidableEq, Repr

/-- Reads the kind of a security scheme; an unknown word is `other`. -/
def SchemeKind.read : Json → Except Mismatch SchemeKind
  | .string "apiKey" => .ok .apiKey
  | .string "basic" => .ok .basic
  | .string "oauth2" => .ok .oauth2
  | .string _ => .ok .other
  | found => .error (.kind found .variant)

/-- Name and location of an API key as far as they have been read. -/
structure KeyFields where
  name : Option String := none
  location : Option KeyLocation := none

/-- Reads the fields of an API key from members, in the order in which they stand. -/
def KeyFields.readMembers (acc : KeyFields) : List (String × Json) → Except Mismatch KeyFields
  | [] => .ok acc
  | (key, value) :: rest => do
    let next ←
      if key = "name" then (fun name => { acc with name := some name }) <$> value.readText
      else if key = "in" then
        (fun location => { acc with location := some location }) <$> KeyLocation.read value
      else .ok acc
    KeyFields.readMembers next rest

/-- The scheme of an API key that has both its fields. -/
def KeyFields.scheme (fields : KeyFields) : Except Mismatch SecurityScheme :=
  match fields.name, fields.location with
  | some name, some location => .ok (.apiKey name location)
  | none, _ => .error (.missing "name")
  | some _, none => .error (.missing "in")

/-- Reads a security scheme that is written as an object. Its kind is read before all else. -/
def SecurityScheme.readMembers (members : List (String × Json)) :
    Except Mismatch SecurityScheme :=
  match members.lookup "type" with
  | none => .error (.missing "type")
  | some tag => do
    match ← SchemeKind.read tag with
    | .apiKey => (← KeyFields.readMembers {} members).scheme
    | .basic => .ok .basic
    | .oauth2 => .ok .oauth2
    | .other => .ok .other

/-- Reads an API key from a list of its name and its location. -/
def SecurityScheme.readKeyItems : List Json → Except Mismatch SecurityScheme
  | [] => .error (.listTooShort 0 "variant SecurityScheme::ApiKey" 2)
  | [name] => do
    let _ ← name.readText
    .error (.listTooShort 1 "variant SecurityScheme::ApiKey" 2)
  | name :: location :: extra => do
    let name ← name.readText
    let location ← KeyLocation.read location
    if extra.isEmpty then .ok (.apiKey name location)
    else .error (.variantTooLong (2 + extra.length) 2)

/-- Reads a security scheme that is written as a list of its kind and its fields. -/
def SecurityScheme.readItems : List Json → Except Mismatch SecurityScheme
  | [] => .error (.missing "type")
  | tag :: rest => do
    let plain (scheme : SecurityScheme) : Except Mismatch SecurityScheme :=
      if rest.isEmpty then .ok scheme else .error (.variantTooLong rest.length 0)
    match ← SchemeKind.read tag with
    | .apiKey => SecurityScheme.readKeyItems rest
    | .basic => plain .basic
    | .oauth2 => plain .oauth2
    | .other => plain .other

/-- Reads a security scheme. -/
def SecurityScheme.read : Json → Except Mismatch SecurityScheme
  | .object members => SecurityScheme.readMembers members
  | .array items => SecurityScheme.readItems items
  | found => .error (.kind found (.tagged "SecurityScheme"))

/-- Reads the scopes of each scheme into the requirement. -/
def SecurityRequirement.readMembers (acc : SecurityRequirement) :
    List (String × Json) → Except Mismatch SecurityRequirement
  | [] => .ok acc
  | (name, scopes) :: rest => do
    SecurityRequirement.readMembers (acc.insert name (← scopes.readList Json.readText)) rest

/-- Reads a security requirement. -/
def SecurityRequirement.read : Json → Except Mismatch SecurityRequirement
  | .object members => SecurityRequirement.readMembers Keyed.empty members
  | found => .error (.kind found .mapping)

end ServiceContract
