import ServiceContract.Text.Utf8
import ServiceContract.Yaml.Char

/-!
# Places in a text

A `Cursor` is what is left of a text together with how far one has come: the bytes passed, as UTF-8,
the lines, and the column, which counts characters. Moving it never goes back.
-/

namespace ServiceContract.Yaml

/-- A place in a text. -/
structure Cursor where
  rest : List Char
  /-- How many bytes stand before it. -/
  index : Nat := 0
  line : Nat := 0
  column : Nat := 0
  deriving Inhabited

namespace Cursor

/-- The next character. -/
def peek? (c : Cursor) : Option Char := c.rest.head?

/-- The character `n` places on. -/
def peekAt? (c : Cursor) (n : Nat) : Option Char := c.rest[n]?

/-- Whether the next character is `x`. -/
def isAt (c : Cursor) (x : Char) : Bool := c.peek? == some x

/-- Passes `n` characters of the line. -/
def advance (c : Cursor) (n : Nat) : Cursor :=
  { c with
    rest := c.rest.drop n
    index := c.index + Text.byteLength (c.rest.take n)
    column := c.column + n }

/-- Passes the characters of the line for which `p` holds. -/
def skipWhile (p : Char → Bool) (c : Cursor) : Cursor :=
  c.advance (c.rest.takeWhile p).length

/-- The characters of the line up to the first for which `p` fails, and the place after them. -/
def takeWhile (p : Char → Bool) (c : Cursor) : List Char × Cursor :=
  (c.rest.takeWhile p, c.skipWhile p)

/-- Passes a line end, which is one character or a pair. The answer has the character that the line
end is in the text of a scalar: a line feed, or one of the two Unicode separators. -/
def lineEnd? (c : Cursor) : Option (Char × Cursor) :=
  match c.rest with
  | '\r' :: '\n' :: rest => some ('\n', ⟨rest, c.index + 2, c.line + 1, 0⟩)
  | x :: rest =>
    if isBreak x then
      let kept := if x = '\u2028' || x = '\u2029' then x else '\n'
      some (kept, ⟨rest, c.index + x.utf8Size, c.line + 1, 0⟩)
    else none
  | [] => none

/-- Whether three of `x` stand at the start of a line and end a word there. -/
def atMarker (c : Cursor) (x : Char) : Bool :=
  c.column == 0 && (List.replicate 3 x).isPrefixOf c.rest && endsWord (c.peekAt? 3)

/-- Whether the marker of a document's start or end stands here. -/
def atDocumentMarker (c : Cursor) : Bool := c.atMarker '-' || c.atMarker '.'

/-- Passes a comment. -/
def skipComment (c : Cursor) : Cursor :=
  if c.isAt '#' then c.skipWhile (!isBreak ·) else c

end Cursor

end ServiceContract.Yaml
