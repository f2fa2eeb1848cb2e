import ServiceContract.Text.Pieces
import ServiceContract.Text.Utf8

/-!
# References

A pointer such as `#/definitions/Profile` names an entry of a part of the document.
`Reference.ofPointer?` takes it apart: three segments, the second says which part is meant and the
third is the entry's name in escaped form. The first segment may be anything.
-/

namespace ServiceContract

/-- The part of a document that a reference points into. -/
inductive Reference.Category where
  | definition
  | parameter
  | other
  deriving DecidableEq, Repr, Inhabited

/-- A pointer taken apart: the part it points into and the entry's name there. -/
structure Reference where
  category : Reference.Category
  name : String
  deriving DecidableEq, Repr, Inhabited

namespace Reference

/-- The category that a pointer's second segment stands for. -/
def Category.ofSegment (segment : List Char) : Category :=
  if segment = "definitions".toList then .definition
  else if segment = "parameters".toList then .parameter
  else .other

/-- The category's word in answers. -/
def Category.name : Category → String
  | definition => "definition"
  | parameter => "parameter"
  | other => "other"

/-- The category's word in the reference's text. -/
def Category.title : Category → String
  | definition => "Definition"
  | parameter => "Parameter"
  | other => "Other"

/-- The reference on one line. -/
def text (r : Reference) : String := r.category.title ++ "(" ++ r.name ++ ")"

/-- Puts `target` in the place of every `first` that `second` follows, from left to right. -/
def replacePair (first second target : Char) : List Char → List Char
  | [] => []
  | [c] => [c]
  | c :: d :: rest =>
    if c = first ∧ d = second then target :: replacePair first second target rest
    else c :: replacePair first second target (d :: rest)

/-- The value of a hexadecimal digit. -/
def hexDigit? (b : UInt8) : Option UInt8 :=
  if 0x30 ≤ b ∧ b ≤ 0x39 then some (b - 0x30)
  else if 0x41 ≤ b ∧ b ≤ 0x46 then some (b - 0x37)
  else if 0x61 ≤ b ∧ b ≤ 0x66 then some (b - 0x57)
  else none

/-- Turns each percent sign with two hexadecimal digits into the byte they stand for. -/
def percentDecode : List UInt8 → List UInt8
  | [] => []
  | b :: high :: low :: rest =>
    if b = 0x25 then
      match hexDigit? high, hexDigit? low with
      | some h, some l => (h * 16 + l) :: percentDecode rest
      | _, _ => b :: percentDecode (high :: low :: rest)
    else b :: percentDecode (high :: low :: rest)
  | b :: rest => b :: percentDecode rest

/-- The name that a pointer segment stands for: `~1` is a slash and after that `~0` a tilde; then
percent signs are decoded, and bytes that are no text are replaced. -/
def decodeSegment (segment : List Char) : String :=
  let unescaped := replacePair '~' '0' '~' (replacePair '~' '1' '/' segment)
  String.ofList (Text.decodeLossy (percentDecode (unescaped.flatMap String.utf8EncodeChar)))

/-- The reference that a pointer stands for, if it has three segments. -/
def ofPointer? (pointer : String) : Option Reference :=
  match Text.pieces '/' pointer.toList with
  | [_, part, name] => some ⟨Category.ofSegment part, decodeSegment name⟩
  | _ => none

end Reference

end ServiceContract
