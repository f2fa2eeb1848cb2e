import ServiceContract.Json.Record

/-!
# Settings

The options of a run: the types that stand in where a response documents none, what to produce, and
the type names that select the simple decoders.
-/

namespace ServiceContract

/-- The options of a run. -/
structure Settings where
  /-- The type of a successful response without a usable schema. -/
  defaultSuccessType : String := "undefined"
  /-- The type of any other response without a usable schema. -/
  defaultErrorType : String := "Error"
  /-- Whether operations are walked at all. -/
  generateRequestTypes : Bool := true
  /-- Whether descriptors carry decoders. -/
  generateResponseDecoders : Bool := true
  /-- Handed on to model emission. -/
  strictInterfaces : Bool := false
  /-- The type name that selects the constant decoder. -/
  noContentMarker : String := "undefined"
  /-- The type name that selects the basic error decoder. -/
  genericErrorMarker : String := "Error"
  deriving DecidableEq, Repr, Inhabited

namespace Settings

/-- The form of the settings. Any field may be left out. -/
def record : Record Settings where
  title := "GeneratorConfig"
  blank := {}
  fields := [
    { name := "defaultSuccessType", omissible := true,
      read := fun v s => do .ok { s with defaultSuccessType := ← v.readText } },
    { name := "defaultErrorType", omissible := true,
      read := fun v s => do .ok { s with defaultErrorType := ← v.readText } },
    { name := "generateRequestTypes", omissible := true,
      read := fun v s => do .ok { s with generateRequestTypes := ← v.readBool } },
    { name := "generateResponseDecoders", omissible := true,
      read := fun v s => do .ok { s with generateResponseDecoders := ← v.readBool } },
    { name := "strictInterfaces", omissible := true,
      read := fun v s => do .ok { s with strictInterfaces := ← v.readBool } },
    { name := "noContentMarker", omissible := true,
      read := fun v s => do .ok { s with noContentMarker := ← v.readText } },
    { name := "genericErrorMarker", omissible := true,
      read := fun v s => do .ok { s with genericErrorMarker := ← v.readText } }]

/-- Reads settings from a JSON value. -/
def read : Json → Except Mismatch Settings := record.read

/-- The settings as a JSON value. -/
def toJson (s : Settings) : Json := .object [
  ("defaultSuccessType", .string s.defaultSuccessType),
  ("defaultErrorType", .string s.defaultErrorType),
  ("generateRequestTypes", .bool s.generateRequestTypes),
  ("generateResponseDecoders", .bool s.generateResponseDecoders),
  ("strictInterfaces", .bool s.strictInterfaces),
  ("noContentMarker", .string s.noContentMarker),
  ("genericErrorMarker", .string s.genericErrorMarker)]

end Settings

end ServiceContract
