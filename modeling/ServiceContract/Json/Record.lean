import ServiceContract.Json.Mismatch

/-!
# Records read from JSON

A record is written as an object, whose members come in any order and may include unknown ones, or
as a list of its fields in their order. `Record.read` accepts both forms. The members of an object
are checked in the order in which they stand.
-/

namespace ServiceContract

/-- Reads a text. -/
def Json.readText : Json → Except Mismatch String
  | .string s => .ok s
  | found => .error (.kind found .string)

/-- Reads a text that may be absent. -/
def Json.readText? : Json → Except Mismatch (Option String)
  | .null => .ok none
  | .string s => .ok (some s)
  | found => .error (.kind found .string)

/-- Reads a truth value. -/
def Json.readBool : Json → Except Mismatch Bool
  | .bool b => .ok b
  | found => .error (.kind found .boolean)

/-- Reads every value of a list. -/
def readEach {α : Type} (read : Json → Except Mismatch α) : List Json → Except Mismatch (List α)
  | [] => .ok []
  | item :: rest => do
    let value ← read item
    let values ← readEach read rest
    .ok (value :: values)

/-- Reads a list. -/
def Json.readList {α : Type} (read : Json → Except Mismatch α) : Json → Except Mismatch (List α)
  | .array items => readEach read items
  | found => .error (.kind found .sequence)

/-- A field of the record `α`. -/
structure Field (α : Type) where
  name : String
  /-- A list may end before the field. -/
  omissible : Bool := false
  /-- Reads the field's value into the record. -/
  read : Json → α → Except Mismatch α

/-- The form of a record: its name, the record without any field, and its fields in order. -/
structure Record (α : Type) where
  title : String
  blank : α
  fields : List (Field α)

namespace Record

variable {α : Type}

/-- Reads members one after the other into `acc`; members that are no field are passed over. -/
def readMembers (r : Record α) (acc : α) : List (String × Json) → Except Mismatch α
  | [] => .ok acc
  | (key, value) :: rest =>
    match r.fields.find? (·.name == key) with
    | some field => do r.readMembers (← field.read value acc) rest
    | none => r.readMembers acc rest

/-- Reads a list into the remaining `fields`, the first of which has the given position. -/
def readItems (r : Record α) (acc : α) (position : Nat) :
    List (Field α) → List Json → Except Mismatch α
  | [], [] => .ok acc
  | [], extra => .error (.listTooLong (position + extra.length))
  | field :: fields, [] =>
    if field.omissible then r.readItems acc (position + 1) fields []
    else .error (.listTooShort position r.title r.fields.length)
  | field :: fields, item :: rest => do
    r.readItems (← field.read item acc) (position + 1) fields rest

/-- Reads a record from an object or from a list. -/
def read (r : Record α) : Json → Except Mismatch α
  | .object members => r.readMembers r.blank members
  | .array items => r.readItems r.blank 0 r.fields items
  | found => .error (.kind found (.record r.title))

end Record

end ServiceContract
