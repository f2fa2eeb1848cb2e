import ServiceContract.Text.Utf8
import ServiceContract.Yaml.Cursor
import ServiceContract.Yaml.Fault
import ServiceContract.Yaml.Token

/-!
# Properties of nodes

What may be written in front of a node, each in a notation of its own: a tag with its handle, and
the name of an anchor. An alias is written like an anchor.
-/

namespace ServiceContract.Yaml

/-! ## Tags -/

/-- Reads an octet that is written with a percent sign. -/
def octet? : List Char → Option (UInt8 × List Char)
  | '%' :: high :: low :: rest =>
    if isHexDigit high && isHexDigit low then
      some (UInt8.ofNat (hexValue high * 16 + hexValue low), rest)
    else none
  | _ => none

/-- The number of octets of the character that `lead` starts; none if it starts no character. -/
def octetCount (lead : UInt8) : Nat :=
  if lead < 0x80 then 1
  else if lead &&& 0xe0 = 0xc0 then 2
  else if lead &&& 0xf0 = 0xe0 then 3
  else if lead &&& 0xf8 = 0xf0 then 4
  else 0

/-- Reads `count` more octets of one character. -/
def laterOctets : (count : Nat) → List Char → Except Fault (List UInt8 × List Char)
  | 0, cs => .ok ([], cs)
  | count + 1, cs =>
    match octet? cs with
    | none => .error .badTag
    | some (b, rest) =>
      if b &&& 0xc0 = 0x80 then
        (fun (octets, rest) => (b :: octets, rest)) <$> laterOctets count rest
      else .error .badTag

/-- Reads the octets of one character. Nothing but their number and their leading bits is looked at,
so they need not be UTF-8. -/
def escapedChar (cs : List Char) : Except Fault (List UInt8 × List Char) :=
  match octet? cs with
  | none => .error .badTag
  | some (lead, rest) =>
    match octetCount lead with
    | 0 => .error .badTag
    | count + 1 =>
      (fun (octets, rest) => (lead :: octets, rest)) <$> laterOctets count rest

/-- Reads the bytes of a tag. -/
def tagRun (verbatim : Bool) : (fuel : Nat) → List Char → Except Fault (List UInt8 × List Char)
  | 0, cs => .ok ([], cs)
  | _, [] => .ok ([], [])
  | fuel + 1, c :: rest =>
    if c = '%' then do
      let (octets, rest) ← escapedChar (c :: rest)
      (fun (more, rest) => (octets ++ more, rest)) <$> tagRun verbatim fuel rest
    else if isTagChar verbatim c then
      (fun (more, rest) => (String.utf8EncodeChar c ++ more, rest)) <$> tagRun verbatim fuel rest
    else .ok ([], c :: rest)

/-- Reads the bytes of a tag at a place, where `optional` allows that nothing is written. A zero
byte ends them, and what is written after it does not count. -/
def tagBytes (verbatim optional : Bool) (c : Cursor) : Except Fault (List UInt8 × Cursor) := do
  let (bytes, rest) ← tagRun verbatim (c.rest.length + 1) c.rest
  if bytes.isEmpty && !optional then .error .badTag
  else .ok (bytes.takeWhile (· != 0), c.advance (c.rest.length - rest.length))

/-- Reads an exclamation mark and the word after it, with the exclamation mark that may close it. -/
def tagHandle (c : Cursor) : Except Fault (List Char × Cursor) :=
  if c.isAt '!' then
    let (word, c) := (c.advance 1).takeWhile isWordChar
    if c.isAt '!' then .ok ('!' :: word ++ ['!'], c.advance 1)
    else .ok ('!' :: word, c)
  else .error .badTag

/-- Whether a handle is closed by a second exclamation mark. -/
def isClosedHandle (handle : List Char) : Bool := handle.length > 1 && ['!'].isSuffixOf handle

/-- Reads a tag: between angle brackets, with a closed handle, or with a suffix alone. A lone
exclamation mark, with an empty suffix, is a suffix without a handle. -/
def scanTag (flow : Bool) (c : Cursor) : Except Fault (TagText × Cursor) := do
  let (text, c) ←
    if c.peekAt? 1 = some '<' then do
      let (suffix, c) ← tagBytes true false (c.advance 2)
      if c.isAt '>' then .ok ((⟨"", suffix⟩ : TagText), c.advance 1)
      else .error .badTag
    else do
      let (handle, c) ← tagHandle c
      if isClosedHandle handle then
        let (suffix, c) ← tagBytes false false c
        .ok (⟨String.ofList handle, suffix⟩, c)
      else
        let (suffix, c) ← tagBytes false true c
        let suffix := (handle.drop 1).flatMap String.utf8EncodeChar ++ suffix
        if suffix.isEmpty then .ok (⟨"", Text.utf8 "!"⟩, c)
        else .ok (⟨"!", suffix⟩, c)
  if endsWord c.peek? || (flow && c.isAt ',') then .ok (text, c) else .error .badTag

/-! ## Anchors -/

/-- Reads the name of an anchor or an alias after its indicator. -/
def scanAnchor (c : Cursor) : Except Fault (String × Cursor) :=
  let (name, c) := (c.advance 1).takeWhile isWordChar
  if !name.isEmpty && (endsWord c.peek? || c.peek?.any "?:,]\x7d%@`".toList.contains) then
    .ok (String.ofList name, c)
  else .error .badAnchor

end ServiceContract.Yaml
