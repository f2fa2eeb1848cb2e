import ServiceContract.Text.Pieces

/-!
# Paths

Paths are texts whose components a slash separates. Empty components count as not there, and so does
a dot that is not the first component. A path is contained if it has components and all of them are
plain names: joined to a directory it then leads below that directory.
-/

namespace ServiceContract

/-- A component of a path. -/
inductive Component where
  /-- The slash at the start of an absolute path. -/
  | root
  /-- A dot at the start of a relative path. -/
  | current
  /-- Two dots. -/
  | parent
  /-- A plain name. -/
  | name (text : String)
  deriving DecidableEq, Repr, Inhabited

/-- Whether a component is a plain name. -/
def Component.isName : Component → Bool
  | name _ => true
  | root | current | parent => false

/-- A component as it is written. -/
def Component.text : Component → String
  | root => "/"
  | current => "."
  | parent => ".."
  | name text => text

namespace Path

/-- The component that a segment stands for; `first` says whether it starts a relative path. -/
def component? (first : Bool) (segment : List Char) : Option Component :=
  if segment = [] then none
  else if segment = ['.'] then (if first then some .current else none)
  else if segment = ['.', '.'] then some .parent
  else some (.name (String.ofList segment))

/-- Whether a path starts at the root. -/
def isAbsolute (path : String) : Bool := ['/'].isPrefixOf path.toList

/-- The components of a path. -/
def components (path : String) : List Component :=
  match Text.pieces '/' path.toList with
  | [] => []
  | first :: later =>
    (if isAbsolute path then [.root] else (component? true first).toList)
      ++ later.filterMap (component? false)

/-- Whether a path leads below the directory it is joined to. -/
def isContained (path : String) : Bool :=
  !(components path).isEmpty && (components path).all Component.isName

/-- The path from `root` along `path`. An absolute path starts anew. -/
def join (root path : String) : String :=
  if isAbsolute path || root.isEmpty then path
  else if ['/'].isSuffixOf root.toList then root ++ path
  else root ++ "/" ++ path

/-- Whether a path can name a file: it does not end in a slash or a dot. -/
def endsInName (path : String) : Bool :=
  match (Text.pieces '/' path.toList).getLast? with
  | some segment => (component? false segment).any Component.isName
  | none => false

/-- The segments up to the last that stands for a component, where none of them starts a path. -/
def upToLast : List (List Char) → List (List Char)
  | [] => []
  | segment :: later =>
    match upToLast later with
    | [] => if (component? false segment).isSome then [segment] else []
    | kept => segment :: kept

/-- The path before its last component, as it is written there. It is empty if the path has no other
component. -/
def parent (path : String) : String :=
  match Text.pieces '/' path.toList with
  | [] => ""
  | first :: later =>
    let kept := upToLast later
    if kept = [] then ""
    else
      match upToLast kept.dropLast with
      | [] => if first = [] then "/" else String.ofList first
      | above => String.ofList (['/'].intercalate (first :: above))

/-- Whether `name` can be the name of a file. -/
def isFileStem (name : String) : Bool :=
  !name.toList.contains '/' && !name.toList.contains '\\' && isContained name

end Path

end ServiceContract
