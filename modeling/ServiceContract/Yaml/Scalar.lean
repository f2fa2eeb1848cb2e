import ServiceContract.Yaml.Cursor
import ServiceContract.Yaml.Fault

/-!
# The text of scalars

A scalar may go over several lines. In plain and quoted scalars a single line end between two words
becomes a space and of several the first is dropped. In block scalars the lines are kept, or folded
where neither neighbour is indented further.
-/

namespace ServiceContract.Yaml

/-! ## Gaps between words -/

/-- What stands between two words of a scalar. -/
structure Gap where
  /-- Blanks before the first line end, last first. -/
  blanks : List Char := []
  /-- The line is broken already. -/
  broken : Bool := false
  /-- The first line end of the gap itself. -/
  first : Option Char := none
  /-- The other line ends, last first. -/
  later : List Char := []

/-- What the gap is in the text of the scalar. -/
def Gap.text (g : Gap) : List Char :=
  if g.broken then
    match g.first with
    | some '\n' => if g.later.isEmpty then [' '] else g.later.reverse
    | some x => x :: g.later.reverse
    | none => g.later.reverse
  else g.blanks.reverse

/-- The gap with one more line end. -/
def Gap.addBreak (g : Gap) (x : Char) : Gap :=
  if g.broken then { g with later := x :: g.later }
  else { g with blanks := [], broken := true, first := some x }

/-- The gap with one more blank, which counts only on the line of the word before. -/
def Gap.addBlank (g : Gap) (x : Char) : Gap :=
  if g.broken then g else { g with blanks := x :: g.blanks }

/-- Reads a gap. A tab may not stand in the indentation, which reaches to column `indent`. -/
def Gap.read (indent : Int) : (fuel : Nat) → Gap → Cursor → Except Fault (Gap × Cursor)
  | 0, g, c => .ok (g, c)
  | fuel + 1, g, c =>
    match c.lineEnd? with
    | some (x, next) => Gap.read indent fuel (g.addBreak x) next
    | none =>
      match c.peek? with
      | some x =>
        if isBlank x then
          if g.broken && x = '\t' && c.column < indent then .error .tabIndentation
          else Gap.read indent fuel (g.addBlank x) (c.advance 1)
        else .ok (g, c)
      | none => .ok (g, c)

/-! ## Plain scalars -/

/-- The characters that end a plain scalar inside brackets. -/
def isFlowEnd (c : Char) : Bool := ",[]\x7b\x7d".toList.contains c

/-- A run of a plain scalar's characters without blanks. -/
def plainRun (flow : Bool) : List Char → Except Fault (List Char)
  | [] => .ok []
  | c :: rest =>
    if isSpace c then .ok []
    else if flow && c = ':' && rest.head?.any fun d => d = '?' || isFlowEnd d then
      .error .unexpectedColon
    else if c = ':' && endsWord rest.head? then .ok []
    else if flow && isFlowEnd c then .ok []
    else (c :: ·) <$> plainRun flow rest

/-- Reads a plain scalar from the word that starts here. `gap` separates the word from those before
it, and counts only if there is a word. The answer also tells whether a line end follows the
scalar. -/
def plainScalar (flow : Bool) (indent : Int) :
    (fuel : Nat) → (gap : Gap) → Cursor → Except Fault (List Char × Bool × Cursor)
  | 0, gap, c => .ok ([], gap.broken, c)
  | fuel + 1, gap, c =>
    if c.atDocumentMarker || c.isAt '#' then .ok ([], gap.broken, c)
    else do
      let run ← plainRun flow c.rest
      let c := c.advance run.length
      let (word, gap) := if run.isEmpty then ([], gap) else (gap.text ++ run, {})
      if c.peek?.any isSpace then
        let (gap, c) ← Gap.read indent fuel gap c
        -- a line that is indented less belongs to what is around the scalar
        if !flow && c.column < indent then .ok (word, gap.broken, c)
        else (fun (more, after) => (word ++ more, after)) <$> plainScalar flow indent fuel gap c
      else .ok (word, gap.broken, c)

/-! ## Quoted scalars -/

/-- What a character after a backslash stands for. -/
inductive Escape where
  | char (c : Char)
  /-- The code point with so many hexadecimal digits. -/
  | code (digits : Nat)

/-- The meaning of a character after a backslash. -/
def escape? (c : Char) : Option Escape :=
  match c with
  | '0' => some (.char '\x00')
  | 'a' => some (.char '\x07')
  | 'b' => some (.char '\x08')
  | 't' | '\t' => some (.char '\t')
  | 'n' => some (.char '\n')
  | 'v' => some (.char '\x0b')
  | 'f' => some (.char '\x0c')
  | 'r' => some (.char '\r')
  | 'e' => some (.char '\x1b')
  | ' ' => some (.char ' ')
  | '"' => some (.char '"')
  | '/' => some (.char '/')
  | '\\' => some (.char '\\')
  | 'N' => some (.char '\u0085')
  | '_' => some (.char '\u00a0')
  | 'L' => some (.char '\u2028')
  | 'P' => some (.char '\u2029')
  | 'x' => some (.code 2)
  | 'u' => some (.code 4)
  | 'U' => some (.code 8)
  | _ => none

/-- The character with the given code point, if there is one. -/
def charOfCode? (n : Nat) : Option Char :=
  if n.isValidChar then some (Char.ofNat n) else none

/-- Reads the first `count` characters as a code point. -/
def codePoint? (count : Nat) (cs : List Char) : Option Char :=
  let digits := cs.take count
  if digits.length = count && digits.all isHexDigit then charOfCode? (numberOf 16 digits) else none

/-- A run of a quoted scalar's characters without blanks. -/
structure QuotedRun where
  /-- What the run stands for. -/
  text : List Char := []
  /-- How many characters it is written with. -/
  length : Nat := 0
  /-- An escaped line end follows. -/
  escaped : Bool := false

/-- The run with a character in front of it that is written with `length` characters. -/
def QuotedRun.cons (x : Char) (length : Nat) (r : QuotedRun) : QuotedRun :=
  { r with text := x :: r.text, length := length + r.length }

/-- Reads a run between double quotes. -/
def doubleRun : (fuel : Nat) → List Char → Except Fault QuotedRun
  | 0, _ => .ok {}
  | _, [] => .ok {}
  | fuel + 1, c :: rest =>
    if c = '"' || isSpace c then .ok {}
    else if c = '\\' then
      match rest with
      | [] => .error .badEscape
      | e :: more =>
        if isBreak e then .ok { length := 1, escaped := true }
        else
          match escape? e with
          | none => .error .badEscape
          | some (.char x) => (·.cons x 2) <$> doubleRun fuel more
          | some (.code count) =>
            match codePoint? count more with
            | none => .error .badEscape
            | some x => (·.cons x (2 + count)) <$> doubleRun fuel (more.drop count)
    else (·.cons c 1) <$> doubleRun fuel rest

/-- Reads a run between single quotes, of which two stand for one. -/
def singleRun : List Char → QuotedRun
  | '\'' :: '\'' :: rest => (singleRun rest).cons '\'' 2
  | c :: rest => if c = '\'' || isSpace c then {} else (singleRun rest).cons c 1
  | [] => {}

/-- Reads what is left of a quoted scalar, after its opening quote. -/
def quotedScalar (quote : Char) : (fuel : Nat) → Cursor → Except Fault (List Char × Cursor)
  | 0, _ => .error .unclosedQuote
  | fuel + 1, c =>
    if c.atDocumentMarker then .error .markerInQuote
    else if c.rest.isEmpty then .error .unclosedQuote
    else do
      let run ← if quote = '"' then doubleRun (fuel + 1) c.rest else .ok (singleRun c.rest)
      let c := c.advance run.length
      let c := if run.escaped then (c.lineEnd?.map (·.2)).getD c else c
      if c.isAt quote then .ok (run.text, c.advance 1)
      else
        let (gap, c) ← Gap.read 0 (fuel + 1) { broken := run.escaped } c
        (fun (more, c) => (run.text ++ gap.text ++ more, c)) <$> quotedScalar quote fuel c

/-! ## Block scalars -/

/-- What becomes of the line ends after the last line. -/
inductive Chomping where
  | strip
  | clip
  | keep
  deriving DecidableEq, Repr

/-- The chomping that a character asks for. -/
def chomping? : Option Char → Option Chomping
  | some '+' => some .keep
  | some '-' => some .strip
  | _ => none

/-- The indentation that a digit asks for. Zero is refused. -/
def increment? (c : Option Char) : Except Fault (Option Nat) :=
  match c with
  | some d =>
    if d = '0' then .error .badBlockHeader
    else if d.isDigit then .ok (some (hexValue d))
    else .ok none
  | none => .ok none

/-- Reads the header of a block scalar after its first character, up to the end of the line:
chomping and indentation in either order. -/
def blockHeader (c : Cursor) : Except Fault (Chomping × Option Nat × Cursor) := do
  let (chomping, increment, c) ←
    match chomping? c.peek? with
    | some chomping => do
      let c := c.advance 1
      let increment ← increment? c.peek?
      pure (chomping, increment, c.advance (if increment.isSome then 1 else 0))
    | none => do
      match ← increment? c.peek? with
      | none => pure (Chomping.clip, none, c)
      | some increment =>
        let c := c.advance 1
        match chomping? c.peek? with
        | some chomping => pure (chomping, some increment, c.advance 1)
        | none => pure (Chomping.clip, some increment, c)
  let c := (c.skipWhile isBlank).skipComment
  match c.peek? with
  | none => .ok (chomping, increment, c)
  | some _ =>
    match c.lineEnd? with
    | some (_, next) => .ok (chomping, increment, next)
    | none => .error .badBlockHeader

/-- Passes indentation and empty lines. Without a known indentation the deepest line of them counts.
The answer is the line ends, last first, and the greatest column reached. -/
def blockGap (indent : Option Nat) :
    (fuel : Nat) → (breaks : List Char) → (deepest : Nat) → Cursor →
      Except Fault (List Char × Nat × Cursor)
  | 0, breaks, deepest, c => .ok (breaks, deepest, c)
  | fuel + 1, breaks, deepest, c =>
    let spaces := (c.rest.takeWhile (· = ' ')).length
    let c := c.advance (match indent with
      | some indent => min spaces (indent - c.column)
      | none => spaces)
    let deepest := max deepest c.column
    if c.isAt '\t' && indent.all (c.column < ·) then .error .tabIndentation
    else
      match c.lineEnd? with
      | some (x, next) => blockGap indent fuel (x :: breaks) deepest next
      | none => .ok (breaks, deepest, c)

/-- What stands between two lines of a block scalar. -/
structure BlockGap where
  /-- The end of the line before. -/
  lineEnd : Option Char := none
  /-- The ends of the empty lines after it. -/
  empty : List Char := []
  /-- The line before starts with a blank. -/
  indented : Bool := false

/-- Whether a line starts with a blank. -/
def isIndented (line : List Char) : Bool := line.head?.any isBlank

/-- What joins the line before to `line`. A folded line end becomes a space unless empty lines
follow it, and only where neither line starts with a blank. -/
def BlockGap.text (folded : Bool) (g : BlockGap) (line : List Char) : List Char :=
  if folded && g.lineEnd == some '\n' && !g.indented && !isIndented line then
    if g.empty.isEmpty then [' '] else g.empty
  else g.lineEnd.toList ++ g.empty

/-- Reads the lines of a block scalar that have the given indentation. The answer is their text with
the gap after the last of them. -/
def blockLines (folded : Bool) (indent : Nat) :
    (fuel : Nat) → BlockGap → Cursor → Except Fault (List Char × BlockGap × Cursor)
  | 0, g, c => .ok ([], g, c)
  | fuel + 1, g, c =>
    if c.column = indent && !c.rest.isEmpty then do
      let (line, c) := c.takeWhile (!isBreak ·)
      let (lineEnd, c) := match c.lineEnd? with
        | some (x, next) => (some x, next)
        | none => (none, c)
      let (breaks, _, c) ← blockGap (some indent) (fuel + 1) [] 0 c
      let next : BlockGap := { lineEnd, empty := breaks.reverse, indented := isIndented line }
      (fun (more, after) => (g.text folded line ++ line ++ more, after))
        <$> blockLines folded indent fuel next c
    else .ok ([], g, c)

/-- Reads a block scalar after its first character. The collection around it is indented to
`outer`, or to -1 if there is none. -/
def blockScalar (folded : Bool) (outer : Int) (c : Cursor) :
    Except Fault (List Char × Cursor) := do
  let (chomping, increment, c) ← blockHeader c
  let given := increment.map fun n => if 0 ≤ outer then outer.toNat + n else n
  let (breaks, deepest, c) ← blockGap given (c.rest.length + 1) [] 0 c
  let indent := given.getD (max deepest (max (outer + 1).toNat 1))
  let (text, gap, c) ←
    blockLines folded indent (c.rest.length + 1) { empty := breaks.reverse } c
  let tail := match chomping with
    | .strip => []
    | .clip => gap.lineEnd.toList
    | .keep => gap.lineEnd.toList ++ gap.empty
  .ok (text ++ tail, c)

end ServiceContract.Yaml
