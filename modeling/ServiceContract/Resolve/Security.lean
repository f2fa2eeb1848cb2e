import ServiceContract.Document.Basic
import ServiceContract.NameSet
import ServiceContract.Report

/-!
# Authentication headers

Security requirements become the headers a request has to carry. Only an API key in a header can be
expressed that way; keys in the query, basic authentication and OAuth are left out.
-/

namespace ServiceContract

/-- A header that authenticates a request. -/
structure AuthHeader where
  name : String
  /-- The scheme the header comes from. -/
  scheme : String
  deriving DecidableEq, Repr, Inhabited

/-- The scheme names of requirements, each once. -/
def requirementNames (requirements : List SecurityRequirement) : NameList :=
  NameList.ofList (requirements.flatMap Keyed.keys)

/-- The names of the schemes that apply to an operation: of its own requirements if it declares
security, else of the document's. Without any declaration there are none to name. -/
def Document.applicableRequirements (d : Document) (operation : Operation) :
    Option (List String) :=
  (operation.security <|> d.security).map fun requirements => (requirementNames requirements).names

/-- The header of a scheme, if its key travels in one. -/
def authHeader? (scheme : String × SecurityScheme) : Option AuthHeader :=
  scheme.2.headerName.map fun name => ⟨name, scheme.1⟩

/-- The scheme that a requirement names. -/
def findScheme (schemes : Keyed SecurityScheme) (name : String) :
    Report (Option (String × SecurityScheme)) :=
  match schemes.get? name with
  | some scheme => pure (some (name, scheme))
  | none => do
    Report.log .debug ("Security requirement '" ++ name ++ "' has no matching scheme")
    pure none

/-- The authentication headers of the named schemes in the order of the names, or of all schemes if
no names are given. Names without a scheme are left out. -/
def resolveAuthHeaders (schemes : Keyed SecurityScheme) (names : Option (List String)) :
    Report (List AuthHeader) := do
  let candidates ← match names with
    | some names => Report.keep (findScheme schemes) names
    | none => pure schemes.entries
  pure (candidates.filterMap authHeader?)

end ServiceContract
