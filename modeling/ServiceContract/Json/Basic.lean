import ServiceContract.Decimal.Binary64

/-!
# JSON values

A document is a JSON value. Members of an object keep their order, and a number is either whole or a
finite double: the two are told apart when a number becomes text.
-/

namespace ServiceContract

/-- A number of a JSON value. -/
inductive Json.Number where
  | whole (n : Int)
  | double (x : Decimal.Binary64)
  deriving DecidableEq, Repr, Inhabited

/-- A JSON value. Readers of JSON text give the members of one object distinct keys. -/
inductive Json where
  | null
  | bool (b : Bool)
  | number (n : Json.Number)
  | string (s : String)
  | array (items : List Json)
  | object (members : List (String × Json))
  deriving Repr, Inhabited

namespace Json

mutual

/-- Decides whether two values are equal, members and their order included. -/
def decEq : (a b : Json) → Decidable (a = b)
  | null, b => match b with
    | null => isTrue rfl
    | bool _ | number _ | string _ | array _ | object _ => isFalse (by simp)
  | bool p, b => match b with
    | bool q => if h : p = q then isTrue (h ▸ rfl) else isFalse (by simp [h])
    | null | number _ | string _ | array _ | object _ => isFalse (by simp)
  | number p, b => match b with
    | number q => if h : p = q then isTrue (h ▸ rfl) else isFalse (by simp [h])
    | null | bool _ | string _ | array _ | object _ => isFalse (by simp)
  | string p, b => match b with
    | string q => if h : p = q then isTrue (h ▸ rfl) else isFalse (by simp [h])
    | null | bool _ | number _ | array _ | object _ => isFalse (by simp)
  | array p, b => match b with
    | array q => match decEqItems p q with
      | isTrue h => isTrue (h ▸ rfl)
      | isFalse h => isFalse (by simp [h])
    | null | bool _ | number _ | string _ | object _ => isFalse (by simp)
  | object p, b => match b with
    | object q => match decEqMembers p q with
      | isTrue h => isTrue (h ▸ rfl)
      | isFalse h => isFalse (by simp [h])
    | null | bool _ | number _ | string _ | array _ => isFalse (by simp)

/-- Decides whether two lists of values are equal. -/
def decEqItems : (a b : List Json) → Decidable (a = b)
  | [], [] => isTrue rfl
  | [], _ :: _ => isFalse (by simp)
  | _ :: _, [] => isFalse (by simp)
  | x :: xs, y :: ys => match decEq x y, decEqItems xs ys with
    | isTrue h, isTrue t => isTrue (h ▸ t ▸ rfl)
    | isFalse h, _ => isFalse (by simp [h])
    | _, isFalse t => isFalse (by simp [t])

/-- Decides whether two lists of members are equal. -/
def decEqMembers : (a b : List (String × Json)) → Decidable (a = b)
  | [], [] => isTrue rfl
  | [], _ :: _ => isFalse (by simp)
  | _ :: _, [] => isFalse (by simp)
  | (k, x) :: xs, (l, y) :: ys =>
    if hk : k = l then
      match decEq x y, decEqMembers xs ys with
      | isTrue h, isTrue t => isTrue (hk ▸ h ▸ t ▸ rfl)
      | isFalse h, _ => isFalse (by simp [h])
      | _, isFalse t => isFalse (by simp [t])
    else isFalse (by simp [hk])

end

instance : DecidableEq Json := decEq

/-- The member of an object under `key`; other values have no members. -/
def get? : Json → String → Option Json
  | object members, key => members.lookup key
  | _, _ => none

/-- The text of a string; other values have none. -/
def text? : Json → Option String
  | string s => some s
  | _ => none

/-- Whether the value is an object. -/
def isObject : Json → Bool
  | object _ => true
  | _ => false

/-- A list of texts. -/
def texts (items : List String) : Json := array (items.map string)

/-- The value, or null if there is none. -/
def orNull : Option Json → Json
  | some value => value
  | none => null

end Json

end ServiceContract
