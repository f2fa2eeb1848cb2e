import ServiceContract.Json.Layout

/-!
# Why a value does not fit

Reading a typed element from a JSON value stops at the first part that does not fit. A `Mismatch`
says which rule was broken; `Mismatch.message` is its wording.
-/

namespace ServiceContract

/-- What a reader accepts at some place. -/
inductive Wanted where
  | string
  | boolean
  | sequence
  | mapping
  | record (title : String)
  | stringOrMapping
  | tagged (title : String)
  | variant
  | unit
  deriving DecidableEq, Repr

/-- The wording of what is accepted. -/
def Wanted.text : Wanted → String
  | string => "a string"
  | boolean => "a boolean"
  | sequence => "a sequence"
  | mapping => "a map"
  | record title => "struct " ++ title
  | stringOrMapping => "string or map"
  | tagged title => "internally tagged enum " ++ title
  | variant => "variant identifier"
  | unit => "unit"

/-- The first rule that a value breaks. -/
inductive Mismatch where
  /-- A value of another kind stands in the place. -/
  | kind (found : Json) (wanted : Wanted)
  /-- A choice written as an object does not have exactly one key. -/
  | notSingleKey
  /-- A field that has to be there is not. -/
  | missing (field : String)
  /-- A list ends before a field that has to be there. -/
  | listTooShort (length : Nat) (title : String) (fields : Nat)
  /-- A list goes on after the last field. -/
  | listTooLong (length : Nat)
  /-- The list of a variant goes on after its fields. -/
  | variantTooLong (length : Nat) (fields : Nat)
  deriving DecidableEq, Repr

/-- How a message speaks of a value that stands in the wrong place. -/
def Json.describe : Json → String
  | null => "null"
  | bool b => "boolean `" ++ boolText b ++ "`"
  | number (.whole n) => "integer `" ++ toString n ++ "`"
  | number (.double x) => "floating point `" ++ x.write numberFormat ++ "`"
  | string s => "string " ++ Text.quoted s
  | array _ => "sequence"
  | object _ => "map"

/-- A number of elements in words. -/
def elements (n : Nat) : String :=
  toString n ++ (if n = 1 then " element" else " elements")

/-- The wording of the broken rule. -/
def Mismatch.message : Mismatch → String
  | kind found wanted => "invalid type: " ++ found.describe ++ ", expected " ++ wanted.text
  | notSingleKey => "invalid value: map, expected map with a single key"
  | missing field => "missing field `" ++ field ++ "`"
  | listTooShort length title fields =>
    "invalid length " ++ toString length ++ ", expected struct " ++ title ++ " with "
      ++ elements fields
  | listTooLong length =>
    "invalid length " ++ toString length ++ ", expected fewer elements in array"
  | variantTooLong length fields =>
    "invalid length " ++ toString length ++ ", expected " ++ elements fields ++ " in sequence"

end ServiceContract
