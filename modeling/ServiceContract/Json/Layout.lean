import ServiceContract.Decimal.Shortest
import ServiceContract.Json.Basic
import ServiceContract.Text.Quoted

/-!
# JSON text

`Json.compact` writes a value on one line without spaces, `Json.pretty` one item or member a line
with two spaces for each level. Only the quote, the backslash and the characters below the space are
escaped.
-/

namespace ServiceContract.Json

/-- Doubles are written positionally from `1e-5` up to below `1e16`, and the sign of an exponent is
always there. -/
def numberFormat : Decimal.NumberFormat := ⟨(-5, 15), "e+", "e-"⟩

/-- The text of a number. -/
def Number.text : Number → String
  | .whole n => toString n
  | .double x => x.write numberFormat

/-- The text of a truth value. -/
def boolText (b : Bool) : String := if b then "true" else "false"

/-- One character inside a JSON string. -/
def escapeChar (c : Char) : String :=
  match c with
  | '"' => "\\\""
  | '\\' => "\\\\"
  | '\x08' => "\\b"
  | '\x0c' => "\\f"
  | '\n' => "\\n"
  | '\r' => "\\r"
  | '\t' => "\\t"
  | c =>
    if c.toNat < 0x20 then
      let digits := Nat.toDigits 16 c.toNat
      "\\u" ++ String.ofList (List.replicate (4 - digits.length) '0' ++ digits)
    else c.toString

/-- A JSON string. -/
def stringText (s : String) : String :=
  "\"" ++ String.join (s.toList.map escapeChar) ++ "\""

mutual

/-- The value on one line. -/
def compact : Json → String
  | null => "null"
  | bool b => boolText b
  | number n => n.text
  | string s => stringText s
  | array items => "[" ++ ",".intercalate (compactItems items) ++ "]"
  | object members => "\x7b" ++ ",".intercalate (compactMembers members) ++ "\x7d"

/-- Each item on one line. -/
def compactItems : List Json → List String
  | [] => []
  | item :: rest => item.compact :: compactItems rest

/-- Each member on one line. -/
def compactMembers : List (String × Json) → List String
  | [] => []
  | (key, value) :: rest => (stringText key ++ ":" ++ value.compact) :: compactMembers rest

end

/-- A line break and the indentation of `level`. -/
def newLine (level : Nat) : String := "\n" ++ String.ofList (List.replicate (2 * level) ' ')

/-- The parts between brackets, one a line; nothing between them if there are none. -/
def block (left right : String) (level : Nat) (parts : List String) : String :=
  if parts.isEmpty then left ++ right
  else left ++ newLine (level + 1) ++ ("," ++ newLine (level + 1)).intercalate parts
    ++ newLine level ++ right

mutual

/-- The value on indented lines, where its own line stands at `level`. -/
def prettyAt (level : Nat) : Json → String
  | null => "null"
  | bool b => boolText b
  | number n => n.text
  | string s => stringText s
  | array items => block "[" "]" level (prettyItems (level + 1) items)
  | object members => block "\x7b" "\x7d" level (prettyMembers (level + 1) members)

/-- Each item on indented lines. -/
def prettyItems (level : Nat) : List Json → List String
  | [] => []
  | item :: rest => item.prettyAt level :: prettyItems level rest

/-- Each member on indented lines. -/
def prettyMembers (level : Nat) : List (String × Json) → List String
  | [] => []
  | (key, value) :: rest =>
    (stringText key ++ ": " ++ value.prettyAt level) :: prettyMembers level rest

end

/-- The value on indented lines. -/
def pretty (value : Json) : String := value.prettyAt 0

end ServiceContract.Json
