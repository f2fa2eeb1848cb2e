/-!
# Tokens of YAML texts

A YAML text is read as a sequence of tokens. Besides the marks that stand in the text there are
tokens for what indentation says: where a block collection starts and where it ends.
-/

namespace ServiceContract.Yaml

/-- How a scalar is written. -/
inductive Style where
  | plain
  | quoted
  | literal
  | folded
  deriving DecidableEq, Repr, Inhabited

/-- A tag as it is written: a handle, which may be empty, and the bytes of a suffix. -/
structure TagText where
  handle : String
  suffix : List UInt8
  deriving DecidableEq, Repr, Inhabited

/-- A token. The end of the stream is the end of the list of tokens. -/
inductive Token where
  | versionDirective (major minor : Nat)
  /-- What a tag handle is short for. -/
  | tagDirective (handle : String) (expansion : List UInt8)
  | documentStart
  | documentEnd
  | blockSequenceStart
  | blockMappingStart
  | blockEnd
  | flowSequenceStart
  | flowSequenceEnd
  | flowMappingStart
  | flowMappingEnd
  | blockEntry
  | flowEntry
  | key
  | value
  | aliasOf (name : String)
  | anchor (name : String)
  | tag (text : TagText)
  | scalar (text : String) (style : Style)
  deriving DecidableEq, Repr, Inhabited

end ServiceContract.Yaml
