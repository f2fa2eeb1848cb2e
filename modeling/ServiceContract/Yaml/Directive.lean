import ServiceContract.Yaml.Property

/-!
# Directives

The lines in front of a document that give its version or say what a tag handle is short for.
-/

namespace ServiceContract.Yaml

/-- Reads a part of a version: up to nine digits. -/
def versionPart (c : Cursor) : Except Fault (Nat × Cursor) :=
  let (digits, c) := c.takeWhile Char.isDigit
  if digits.isEmpty || 9 < digits.length then .error .badDirective
  else .ok (numberOf 10 digits, c)

/-- Reads the version of a version directive. -/
def scanVersion (c : Cursor) : Except Fault (Token × Cursor) := do
  let (major, c) ← versionPart (c.skipWhile isBlank)
  if c.isAt '.' then
    let (minor, c) ← versionPart (c.advance 1)
    .ok (.versionDirective major minor, c)
  else .error .badDirective

/-- Reads the handle of a tag directive and what it is short for. -/
def scanTagDirective (c : Cursor) : Except Fault (Token × Cursor) := do
  let (handle, c) ← tagHandle (c.skipWhile isBlank)
  if handle = ['!'] || isClosedHandle handle then
    if c.peek?.any isBlank then
      let (expansion, c) ← tagBytes true false (c.skipWhile isBlank)
      if endsWord c.peek? then .ok (.tagDirective (String.ofList handle) expansion, c)
      else .error .badDirective
    else .error .badDirective
  else .error .badDirective

/-- Reads a directive up to the end of its line. -/
def scanDirective (c : Cursor) : Except Fault (Token × Cursor) := do
  let (name, c) := (c.advance 1).takeWhile isWordChar
  if name.isEmpty || !endsWord c.peek? then .error .badDirective
  else
    let (token, c) ←
      if name = "YAML".toList then scanVersion c
      else if name = "TAG".toList then scanTagDirective c
      else .error .badDirective
    let c := (c.skipWhile isBlank).skipComment
    match c.lineEnd? with
    | some (_, next) => .ok (token, next)
    | none => if c.rest.isEmpty then .ok (token, c) else .error .badDirective

end ServiceContract.Yaml
