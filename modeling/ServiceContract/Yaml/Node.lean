import ServiceContract.Yaml.Fault
import ServiceContract.Yaml.Tag
import ServiceContract.Yaml.Token

/-!
# Nodes from tokens

A document is a tree of scalars, sequences and mappings, in which an alias stands for a node that
was given a name. `Node.ofTokens?` reads the tokens of a text as one document.
-/

namespace ServiceContract.Yaml

/-- A node. Anchors and aliases name nodes by values of `α`. -/
inductive Node (α : Type) where
  | aliasOf (name : α)
  | scalar (anchor : Option α) (tag : Option Tag) (text : String) (style : Style)
  | sequence (anchor : Option α) (tag : Option Tag) (items : List (Node α))
  | mapping (anchor : Option α) (tag : Option Tag) (entries : List (Node α × Node α))
  deriving Inhabited

/-- The name and the tag in front of a node. -/
structure Properties where
  anchor : Option String := none
  tag : Option Tag := none

/-- The place of a node, which decides the collections it may be. -/
inductive Place where
  | flow
  | block
  /-- The key or value of a block mapping, where a sequence needs no indentation. -/
  | entry
  deriving DecidableEq, Repr

/-- What the tag handles of a document are short for. -/
abbrev Handles := List (String × List UInt8)

/-- The handles that every document has. -/
def defaultHandles : Handles := [("!", Text.utf8 "!"), ("!!", Text.utf8 Tag.standardSpace)]

/-- The tag that a written tag stands for. -/
def TagText.resolve (handles : Handles) (t : TagText) : Except Fault Tag :=
  if t.handle = "" then .ok ⟨t.suffix⟩
  else
    match handles.lookup t.handle with
    | some expansion => .ok ⟨expansion ++ t.suffix⟩
    | none => .error .undefinedHandle

namespace Grammar

/-- A scalar that is not written. -/
def absent (p : Properties := {}) : Node String := .scalar p.anchor p.tag "" .plain

/-- Reads the name and the tag in front of a node, in either order. -/
def properties (handles : Handles) : List Token → Except Fault (Properties × List Token)
  | .anchor name :: .tag text :: rest | .tag text :: .anchor name :: rest => do
    .ok (⟨some name, some (← text.resolve handles)⟩, rest)
  | .anchor name :: rest => .ok (⟨some name, none⟩, rest)
  | .tag text :: rest => do .ok (⟨none, some (← text.resolve handles)⟩, rest)
  | rest => .ok ({}, rest)

/-- Whether an entry of a block sequence is empty before these tokens. -/
def endsBlockItem : List Token → Bool
  | .blockEntry :: _ | .blockEnd :: _ => true
  | _ => false

/-- Whether an entry of a block mapping is empty before these tokens. -/
def endsBlockEntry : List Token → Bool
  | .key :: _ | .value :: _ | .blockEnd :: _ => true
  | _ => false

/-- Whether an entry of a sequence without indentation is empty before these tokens. -/
def endsIndentlessItem (tokens : List Token) : Bool :=
  endsBlockItem tokens || endsBlockEntry tokens

/-- Whether a value in a flow sequence is empty before these tokens. -/
def endsFlowItem : List Token → Bool
  | .flowEntry :: _ | .flowSequenceEnd :: _ => true
  | _ => false

/-- Whether a value in a flow mapping is empty before these tokens. -/
def endsFlowEntry : List Token → Bool
  | .flowEntry :: _ | .flowMappingEnd :: _ => true
  | _ => false

/-- Passes the comma between entries in brackets; the first entry has none. -/
def separator (first : Bool) (tokens : List Token) : Except Fault (List Token) :=
  if first then .ok tokens
  else
    match tokens with
    | .flowEntry :: rest => .ok rest
    | _ => .error .missingEntry

mutual

/-- Reads a node. -/
def node (handles : Handles) (place : Place) :
    (fuel : Nat) → List Token → Except Fault (Node String × List Token)
  | 0, _ => .error .missingNode
  | fuel + 1, tokens =>
    match tokens with
    | .aliasOf name :: rest => .ok (.aliasOf name, rest)
    | _ => do
      let (p, rest) ← properties handles tokens
      match rest, place with
      | .blockEntry :: _, .entry => do
        let (items, rest) ← indentlessItems handles fuel rest
        .ok (.sequence p.anchor p.tag items, rest)
      | .scalar text style :: rest, _ => .ok (.scalar p.anchor p.tag text style, rest)
      | .flowSequenceStart :: rest, _ => do
        let (items, rest) ← flowItems handles true fuel rest
        .ok (.sequence p.anchor p.tag items, rest)
      | .flowMappingStart :: rest, _ => do
        let (entries, rest) ← flowEntries handles true fuel rest
        .ok (.mapping p.anchor p.tag entries, rest)
      | .blockSequenceStart :: rest, .block | .blockSequenceStart :: rest, .entry => do
        let (items, rest) ← blockItems handles fuel rest
        .ok (.sequence p.anchor p.tag items, rest)
      | .blockMappingStart :: rest, .block | .blockMappingStart :: rest, .entry => do
        let (entries, rest) ← blockEntries handles fuel rest
        .ok (.mapping p.anchor p.tag entries, rest)
      -- a name or a tag alone stands for an empty scalar
      | rest, _ =>
        if p.anchor.isSome || p.tag.isSome then .ok (absent p, rest) else .error .missingNode

/-- Reads the entries of a block sequence. -/
def blockItems (handles : Handles) :
    (fuel : Nat) → List Token → Except Fault (List (Node String) × List Token)
  | 0, _ => .error .missingEntry
  | fuel + 1, tokens =>
    match tokens with
    | .blockEntry :: rest => do
      let (item, rest) ←
        if endsBlockItem rest then .ok (absent, rest) else node handles .block fuel rest
      let (items, rest) ← blockItems handles fuel rest
      .ok (item :: items, rest)
    | .blockEnd :: rest => .ok ([], rest)
    | _ => .error .missingEntry

/-- Reads the entries of a sequence that needs no indentation. -/
def indentlessItems (handles : Handles) :
    (fuel : Nat) → List Token → Except Fault (List (Node String) × List Token)
  | 0, _ => .error .missingEntry
  | fuel + 1, tokens =>
    match tokens with
    | .blockEntry :: rest => do
      let (item, rest) ←
        if endsIndentlessItem rest then .ok (absent, rest) else node handles .block fuel rest
      let (items, rest) ← indentlessItems handles fuel rest
      .ok (item :: items, rest)
    | rest => .ok ([], rest)

/-- Reads the entries of a block mapping. -/
def blockEntries (handles : Handles) :
    (fuel : Nat) → List Token → Except Fault (List (Node String × Node String) × List Token)
  | 0, _ => .error .missingEntry
  | fuel + 1, tokens =>
    match tokens with
    | .key :: rest => do
      let (key, rest) ←
        if endsBlockEntry rest then .ok (absent, rest) else node handles .entry fuel rest
      let (value, rest) ←
        match rest with
        | .value :: rest =>
          if endsBlockEntry rest then .ok (absent, rest) else node handles .entry fuel rest
        | rest => .ok (absent, rest)
      let (entries, rest) ← blockEntries handles fuel rest
      .ok ((key, value) :: entries, rest)
    | .blockEnd :: rest => .ok ([], rest)
    | _ => .error .missingEntry

/-- Reads the entries of a flow sequence. -/
def flowItems (handles : Handles) (first : Bool) :
    (fuel : Nat) → List Token → Except Fault (List (Node String) × List Token)
  | 0, _ => .error .missingEntry
  | fuel + 1, tokens =>
    match tokens with
    | .flowSequenceEnd :: rest => .ok ([], rest)
    | _ => do
      match ← separator first tokens with
      | .flowSequenceEnd :: rest => .ok ([], rest)
      | .key :: rest => do
        let (item, rest) ← flowPair handles fuel rest
        let (items, rest) ← flowItems handles false fuel rest
        .ok (item :: items, rest)
      | rest => do
        let (item, rest) ← node handles .flow fuel rest
        let (items, rest) ← flowItems handles false fuel rest
        .ok (item :: items, rest)

/-- Reads an entry of a flow sequence that is a mapping with one key. Where the key is missing, the
token in its place is passed over. -/
def flowPair (handles : Handles) :
    (fuel : Nat) → List Token → Except Fault (Node String × List Token)
  | 0, _ => .error .missingEntry
  | fuel + 1, tokens => do
    let (key, rest) ←
      match tokens with
      | .value :: rest | .flowEntry :: rest | .flowSequenceEnd :: rest => .ok (absent, rest)
      | _ => node handles .flow fuel tokens
    let (value, rest) ←
      match rest with
      | .value :: rest =>
        if endsFlowItem rest then .ok (absent, rest) else node handles .flow fuel rest
      | rest => .ok (absent, rest)
    .ok (.mapping none none [(key, value)], rest)

/-- Reads the entries of a flow mapping. -/
def flowEntries (handles : Handles) (first : Bool) :
    (fuel : Nat) → List Token → Except Fault (List (Node String × Node String) × List Token)
  | 0, _ => .error .missingEntry
  | fuel + 1, tokens =>
    match tokens with
    | .flowMappingEnd :: rest => .ok ([], rest)
    | _ => do
      match ← separator first tokens with
      | .flowMappingEnd :: rest => .ok ([], rest)
      | .key :: rest => do
        let (key, rest) ←
          match rest with
          | .value :: _ | .flowEntry :: _ | .flowMappingEnd :: _ => .ok (absent, rest)
          | _ => node handles .flow fuel rest
        let (value, rest) ←
          match rest with
          | .value :: rest =>
            if endsFlowEntry rest then .ok (absent, rest) else node handles .flow fuel rest
          | rest => .ok (absent, rest)
        let (entries, rest) ← flowEntries handles false fuel rest
        .ok ((key, value) :: entries, rest)
      | rest => do
        let (key, rest) ← node handles .flow fuel rest
        let (entries, rest) ← flowEntries handles false fuel rest
        .ok ((key, absent) :: entries, rest)

end

/-- Reads the directives in front of a document: at most one version and one expansion for each
handle. -/
def directives (version : Bool) (handles : Handles) :
    List Token → Except Fault (Handles × List Token)
  | .versionDirective major minor :: rest =>
    if version then .error .duplicateDirective
    else if major = 1 && (minor = 1 || minor = 2) then directives true handles rest
    else .error .badVersion
  | .tagDirective handle expansion :: rest =>
    if handles.any (·.1 == handle) then .error .duplicateDirective
    else directives version (handles ++ [(handle, expansion)]) rest
  | rest => .ok (handles, rest)

/-- Whether a document that has been started has no content. -/
def endsDocument : List Token → Bool
  | [] | .versionDirective .. :: _ | .tagDirective .. :: _ => true
  | .documentStart :: _ | .documentEnd :: _ => true
  | _ => false

/-- Whether a text begins with a document that says where it starts. -/
def startsExplicitly : List Token → Bool
  | .versionDirective .. :: _ | .tagDirective .. :: _ | .documentStart :: _ => true
  | _ => false

/-- Reads a document. -/
def document (tokens : List Token) : Except Fault (Node String × List Token) := do
  let fuel := 4 * tokens.length + 4
  if startsExplicitly tokens then
    let (handles, rest) ← directives false [] tokens
    match rest with
    | .documentStart :: rest =>
      if endsDocument rest then .ok (absent, rest)
      else node (handles ++ defaultHandles) .block fuel rest
    | _ => .error .missingDocumentStart
  else node defaultHandles .block fuel tokens

end Grammar

/-- The document of the tokens, or none if there are no tokens. There can be no second one. -/
def Node.ofTokens? (tokens : List Token) : Except Fault (Option (Node String)) :=
  match tokens with
  | [] => .ok none
  | tokens => do
    let (root, rest) ← Grammar.document tokens
    if (rest.dropWhile (· == .documentEnd)).isEmpty then .ok (some root)
    else .error .severalDocuments

end ServiceContract.Yaml
