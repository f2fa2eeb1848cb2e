import ServiceContract.Yaml.Directive
import ServiceContract.Yaml.Scalar

/-!
# Tokens from text

`Token.scan` reads a text as tokens. Indentation opens and closes block collections. A mapping key
needs no mark of its own: where one may stand, its place is remembered, and when a colon follows on
the same line and at most 1024 bytes on, the tokens that announce a key are put in at that place.
-/

namespace ServiceContract.Yaml

/-- A place where a mapping key may have started. -/
structure PossibleKey where
  /-- Its line cannot be anything but a key. -/
  required : Bool
  /-- How many tokens stand before it. -/
  position : Nat
  index : Nat
  line : Nat
  column : Nat

/-- Where the reading of tokens stands. -/
structure Lexer where
  cursor : Cursor
  /-- More than the number of characters that are left: enough steps for any loop over them. -/
  bound : Nat
  tokens : Array Token := #[]
  /-- The column of the innermost open block collection, or -1. -/
  indent : Int := -1
  /-- The columns of those around it, innermost first. -/
  outer : List Int := []
  /-- Whether a key may start here. -/
  keyAllowed : Bool := true
  /-- The possible key of the innermost bracket. -/
  possible : Option PossibleKey := none
  /-- Those of the brackets around it, innermost first: one for each open bracket. -/
  enclosing : List (Option PossibleKey) := []

namespace Lexer

/-- Whether there are open brackets. -/
def inFlow (l : Lexer) : Bool := !l.enclosing.isEmpty

/-- The lexer with one more token. -/
def emit (l : Lexer) (t : Token) : Lexer := { l with tokens := l.tokens.push t }

/-- Reads a token of `n` characters. -/
def emitMark (l : Lexer) (n : Nat) (t : Token) : Lexer :=
  { l.emit t with cursor := l.cursor.advance n }

/-! ## Possible keys -/

/-- A possible key is given up on the next line, or when it is more than 1024 bytes back. -/
def giveUp (c : Cursor) (key : Option PossibleKey) : Except Fault (Option PossibleKey) :=
  match key with
  | none => .ok none
  | some k =>
    if k.line < c.line || k.index + 1024 < c.index then
      if k.required then .error .missingColon else .ok none
    else .ok key

/-- Gives up all possible keys that are out of reach. -/
def giveUpKeys (l : Lexer) : Except Fault Lexer := do
  let possible ← giveUp l.cursor l.possible
  let enclosing ← l.enclosing.mapM (giveUp l.cursor)
  .ok { l with possible, enclosing }

/-- Forgets the innermost possible key, because something else than a colon follows it. -/
def dropKey (l : Lexer) : Except Fault Lexer :=
  match l.possible with
  | some k => if k.required then .error .missingColon else .ok { l with possible := none }
  | none => .ok l

/-- Remembers that a key may start here. -/
def saveKey (l : Lexer) : Except Fault Lexer :=
  if l.keyAllowed then do
    let l ← l.dropKey
    -- at the column of a block mapping nothing but a key can follow
    let key : PossibleKey :=
      { required := !l.inFlow && l.indent == l.cursor.column
        position := l.tokens.size
        index := l.cursor.index
        line := l.cursor.line
        column := l.cursor.column }
    .ok { l with possible := some key }
  else .ok l

/-! ## Block collections -/

/-- Opens a block collection at `column`, unless one is open there. Its token goes to `position`. -/
def openBlock (l : Lexer) (column position : Nat) (t : Token) : Lexer :=
  if !l.inFlow && l.indent < column then
    { l with
      outer := l.indent :: l.outer
      indent := column
      tokens := l.tokens.insertIdxIfInBounds position t }
  else l

/-- Closes block collections, the innermost of which stands at `indent`, down to `column`. -/
def closeBlocks (column : Int) : (outer : List Int) → (indent : Int) → Array Token →
    List Int × Int × Array Token
  | [], indent, tokens => ([], indent, tokens)
  | next :: outer, indent, tokens =>
    if column < indent then closeBlocks column outer next (tokens.push .blockEnd)
    else (next :: outer, indent, tokens)

/-- Closes the block collections that are indented further than `column`. -/
def closeTo (l : Lexer) (column : Int) : Lexer :=
  if l.inFlow then l
  else
    let (outer, indent, tokens) := closeBlocks column l.outer l.indent l.tokens
    { l with outer, indent, tokens }

/-! ## Space between tokens -/

/-- Passes blanks, comments and line ends. Outside brackets a tab may not stand where a key may
start. -/
def skipSpace : (fuel : Nat) → Lexer → Lexer
  | 0, l => l
  | fuel + 1, l =>
    let c := l.cursor
    -- a byte order mark may start any line, and what follows it is not at the line's start
    let c := if c.column = 0 && c.isAt '\ufeff' then c.advance 1 else c
    let tabs := l.inFlow || !l.keyAllowed
    let c := (c.skipWhile fun x => x = ' ' || (tabs && x = '\t')).skipComment
    match c.lineEnd? with
    | some (_, next) =>
      skipSpace fuel { l with cursor := next, keyAllowed := l.keyAllowed || !l.inFlow }
    | none => { l with cursor := c }

/-! ## Tokens -/

/-- A marker at the start of a line closes all blocks. -/
def startLine (l : Lexer) : Except Fault Lexer := do
  let l ← (l.closeTo (-1)).dropKey
  .ok { l with keyAllowed := false }

/-- Reads an opening bracket. -/
def openBracket (l : Lexer) (t : Token) : Except Fault Lexer := do
  let l ← l.saveKey
  let l := { l with enclosing := l.possible :: l.enclosing, possible := none, keyAllowed := true }
  .ok (l.emitMark 1 t)

/-- Reads a closing bracket. -/
def closeBracket (l : Lexer) (t : Token) : Except Fault Lexer := do
  let l ← l.dropKey
  let l := match l.enclosing with
    | [] => l
    | key :: enclosing => { l with possible := key, enclosing }
  .ok ({ l with keyAllowed := false }.emitMark 1 t)

/-- Reads the comma between entries in brackets. -/
def flowEntry (l : Lexer) : Except Fault Lexer := do
  let l ← l.dropKey
  .ok ({ l with keyAllowed := true }.emitMark 1 .flowEntry)

/-- Reads the dash in front of an entry. -/
def blockEntry (l : Lexer) : Except Fault Lexer := do
  if !l.inFlow && !l.keyAllowed then .error .misplacedEntry
  else
    let l := l.openBlock l.cursor.column l.tokens.size .blockSequenceStart
    let l ← l.dropKey
    .ok ({ l with keyAllowed := true }.emitMark 1 .blockEntry)

/-- Reads the question mark in front of a key. -/
def explicitKey (l : Lexer) : Except Fault Lexer := do
  if !l.inFlow && !l.keyAllowed then .error .misplacedKey
  else
    let l := l.openBlock l.cursor.column l.tokens.size .blockMappingStart
    let l ← l.dropKey
    .ok ({ l with keyAllowed := !l.inFlow }.emitMark 1 .key)

/-- Reads the colon in front of a value: of the possible key, else of a key with a mark. -/
def value (l : Lexer) : Except Fault Lexer :=
  match l.possible with
  | some k =>
    -- the key's mark goes first, so that the start of a new mapping ends up before it
    let l := { l with tokens := l.tokens.insertIdxIfInBounds k.position .key }
    let l := l.openBlock k.column k.position .blockMappingStart
    .ok ({ l with possible := none, keyAllowed := false }.emitMark 1 .value)
  | none =>
    if !l.inFlow && !l.keyAllowed then .error .misplacedValue
    else
      let l := l.openBlock l.cursor.column l.tokens.size .blockMappingStart
      .ok ({ l with keyAllowed := !l.inFlow }.emitMark 1 .value)

/-- Reads something that may start a key, with `read`. -/
def keyStart (l : Lexer) (read : Cursor → Except Fault (Token × Cursor)) :
    Except Fault Lexer := do
  let l ← l.saveKey
  let (t, cursor) ← read l.cursor
  .ok { l.emit t with cursor, keyAllowed := false }

/-- Reads a block scalar. -/
def blockScalar (l : Lexer) (style : Style) : Except Fault Lexer := do
  let l ← l.dropKey
  let (text, cursor) ← Yaml.blockScalar (style == .folded) l.indent (l.cursor.advance 1)
  .ok { l.emit (.scalar (String.ofList text) style) with cursor, keyAllowed := true }

/-- Reads a quoted scalar. -/
def quotedScalar (l : Lexer) (quote : Char) : Except Fault Lexer :=
  l.keyStart fun c => do
    let (text, c) ← Yaml.quotedScalar quote l.bound (c.advance 1)
    .ok (.scalar (String.ofList text) .quoted, c)

/-- Reads a plain scalar. After a line end a key may start again. -/
def plainScalar (l : Lexer) : Except Fault Lexer := do
  let l ← l.saveKey
  let (text, broken, cursor) ←
    Yaml.plainScalar l.inFlow (l.indent + 1) l.bound {} l.cursor
  .ok { l.emit (.scalar (String.ofList text) .plain) with cursor, keyAllowed := broken }

/-- Whether a plain scalar may start with `c` before `next`. -/
def startsPlain (l : Lexer) (c : Char) (next : Option Char) : Bool :=
  (!isSpace c && !"-?:,[]\x7b\x7d#&*!|>'\"%@`".toList.contains c)
    || (c = '-' && !next.any isBlank)
    || (!l.inFlow && (c = '?' || c = ':') && !endsWord next)

/-- Reads the token that starts with `c`. -/
def token (l : Lexer) (c : Char) : Except Fault Lexer :=
  let next := l.cursor.peekAt? 1
  let alone := endsWord next
  if l.cursor.column = 0 && c = '%' then do
    let l ← l.startLine
    let (t, cursor) ← scanDirective l.cursor
    .ok { l.emit t with cursor }
  else if l.cursor.atMarker '-' then (·.emitMark 3 .documentStart) <$> l.startLine
  else if l.cursor.atMarker '.' then (·.emitMark 3 .documentEnd) <$> l.startLine
  else if c = '[' then l.openBracket .flowSequenceStart
  else if c = '\x7b' then l.openBracket .flowMappingStart
  else if c = ']' then l.closeBracket .flowSequenceEnd
  else if c = '\x7d' then l.closeBracket .flowMappingEnd
  else if c = ',' then l.flowEntry
  else if c = '-' && alone then l.blockEntry
  else if c = '?' && (l.inFlow || alone) then l.explicitKey
  else if c = ':' && (l.inFlow || alone) then l.value
  else if c = '*' then l.keyStart fun c => (fun (n, c) => (.aliasOf n, c)) <$> scanAnchor c
  else if c = '&' then l.keyStart fun c => (fun (n, c) => (.anchor n, c)) <$> scanAnchor c
  else if c = '!' then l.keyStart fun c => (fun (t, c) => (.tag t, c)) <$> scanTag l.inFlow c
  else if c = '|' && !l.inFlow then l.blockScalar .literal
  else if c = '>' && !l.inFlow then l.blockScalar .folded
  else if c = '\'' || c = '"' then l.quotedScalar c
  else if l.startsPlain c next then l.plainScalar
  else .error .unexpectedCharacter

/-- Ends the reading at the end of the text. -/
def finish (l : Lexer) : Except Fault (Array Token) := do
  let l ← (l.closeTo (-1)).dropKey
  .ok l.tokens

/-- Reads tokens to the end of the text. Each consumes at least one character. -/
def run : (fuel : Nat) → Lexer → Except Fault (Array Token)
  | 0, l => l.finish
  | fuel + 1, l => do
    let l ← (skipSpace l.bound l).giveUpKeys
    -- what is indented less ends the blocks around it
    let l := l.closeTo l.cursor.column
    match l.cursor.peek? with
    | none => l.finish
    | some c => run fuel (← l.token c)

end Lexer

/-- The tokens of a text. -/
def Token.scan (text : List Char) : Except Fault (List Token) := do
  if text.all isAllowed then
    let bound := text.length + 1
    let tokens ← Lexer.run bound { cursor := { rest := text }, bound }
    .ok tokens.toList
  else .error .forbiddenCharacter

end ServiceContract.Yaml
