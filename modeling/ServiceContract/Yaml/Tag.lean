import ServiceContract.Text.Utf8

/-!
# Tags

A tag names the type of a node. It is a sequence of bytes and not a text, because escapes in it need
not be UTF-8. The standard types share a name space; a tag that starts with an exclamation mark is a
local one.
-/

namespace ServiceContract.Yaml

/-- The name of a type. -/
structure Tag where
  bytes : List UInt8
  deriving DecidableEq, Repr, Inhabited

namespace Tag

/-- What the tags of the standard types start with. -/
def standardSpace : String := "tag:yaml.org,2002:"

/-- The tag of a standard type. -/
def standard (name : String) : Tag := ⟨Text.utf8 (standardSpace ++ name)⟩

/-- What follows the exclamation mark that a tag starts with. -/
def localName? (t : Tag) : Option (List UInt8) :=
  match t.bytes with
  | mark :: name => if mark.toNat = '!'.toNat then some name else none
  | [] => none

/-- Whether a tag is the name of a local type, which has to be a text. -/
def isLocal (t : Tag) : Bool := t.localName?.any fun name => (Text.decode? name).isSome

end Tag

end ServiceContract.Yaml
