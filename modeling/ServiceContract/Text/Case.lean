import ServiceContract.Text.CaseTable

/-!
# Upper and lower case

Case is mapped character by character with the full mappings, so one character may become several
(`ß` in upper case is `SS`). ASCII has its own rule and needs no table.
-/

namespace ServiceContract.Text

/-- The other case of `c` above ASCII: a sequence if it has one, else the run that moves it. -/
def otherCase (sequences : List (Nat × List Nat)) (runs : List CaseRun) (c : Char) : List Char :=
  match sequences.find? (·.1 == c.toNat) with
  | some (_, codes) => codes.map Char.ofNat
  | none =>
    match runs.find? (·.moves c.toNat) with
    | some run => [Char.ofNat (c.toNat + run.distance).toNat]
    | none => [c]

/-- The upper case of one character. -/
def upperChar (c : Char) : List Char :=
  if c.toNat < 128 then [c.toUpper] else otherCase upperSequences upperRuns c

/-- The lower case of one character. -/
def lowerChar (c : Char) : List Char :=
  if c.toNat < 128 then [c.toLower] else otherCase lowerSequences lowerRuns c

/-- The text in upper case. -/
def upper (s : String) : String :=
  String.ofList (s.toList.flatMap upperChar)

/-- The text with its ASCII letters in lower case. -/
def asciiLower (s : String) : String :=
  s.map Char.toLower

/-- Case is changed letter by letter, so a key can be compared with a method's name character by
character. -/
theorem asciiLower_eq (s : String) :
    asciiLower s = String.ofList (s.toList.map Char.toLower) := by
  rw [asciiLower, ← String.toList_map, String.ofList_toList]

/-- The text with its first character in lower case. -/
def uncapitalize (s : String) : String :=
  match s.toList with
  | [] => ""
  | first :: rest => String.ofList (lowerChar first ++ rest)

end ServiceContract.Text
