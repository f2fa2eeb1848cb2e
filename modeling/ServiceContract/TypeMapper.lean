/-!
# Type mapping

A type mapper turns the type names of a contract into type expressions of the output. Names it does
not know are taken for output types already.
-/

namespace ServiceContract

/-- Output types for type names and for arrays of them. -/
structure TypeMapper where
  /-- The output type of a type name. -/
  map : String → String
  /-- The output type of an array of the type name. -/
  mapArray : String → String

namespace TypeMapper

/-- The mapper that maps names with `map` and writes an array as a read-only one. -/
def ofMap (map : String → String) : TypeMapper where
  map := map
  mapArray item := "ReadonlyArray<" ++ map item ++ ">"

/-- The output type of an uploaded file. -/
def fileType : String := "\x7b uri: string, name: string, type: string \x7d"

/-- The default mapper. Of the contract's own type names only two differ from the output's. -/
def standard : TypeMapper := ofMap fun name =>
  if name = "integer" then "number"
  else if name = "file" then fileType
  else name

/-- The output type of an inline type with the item type it states, if any. -/
def inlineType (m : TypeMapper) (type : String) (item : Option String) : String :=
  match item with
  | some item => if type = "array" then m.mapArray item else m.map type
  | none => m.map type

end TypeMapper

end ServiceContract
