import ServiceContract.Keyed
import ServiceContract.Yaml.Anchor
import ServiceContract.Yaml.Plain

/-!
# JSON values of YAML texts

`readValue` reads a YAML text, of which JSON is a part, as a JSON value. Keys are the texts of
scalars as they are written; of entries with the same key the last gives the value and the first the
place. Collections may be nested 128 deep, and aliases may be followed a hundred times as often as
the document has marks.
-/

namespace ServiceContract.Yaml

/-- The greatest depth of nested collections. -/
def depthLimit : Nat := 128

/-- A step that may follow aliases, of which it counts how many are left. -/
abbrev Following (α : Type) := StateT Nat (Except Fault) α

/-- The node that an alias stands for; other nodes stand for themselves. -/
def Tree.follow (tree : Tree) : Node Nat → Following (Node Nat)
  | .aliasOf number => do
    match ← get with
    | 0 => throw .tooManyAliases
    | left + 1 =>
      set left
      match tree.targets.lookup number with
      | some target => pure target
      | none => throw .unknownAnchor
  | other => pure other

/-- The text of a key. -/
def Tree.keyText (tree : Tree) (key : Node Nat) : Following String := do
  match ← tree.follow key with
  | .scalar _ _ text _ => pure text
  | _ => throw .notAScalarKey

/-- The value of a node inside at most `128 - depth` collections. -/
def Tree.value (tree : Tree) (depth : Nat) (node : Node Nat) : Following Json := do
  match ← tree.follow node with
  | .aliasOf _ => throw .unknownAnchor
  | .scalar _ tag text style => scalarValue tag text style
  | .sequence _ tag items =>
    if tag.any Tag.isLocal then throw .unknownTag
    else
      match depth with
      | 0 => throw .tooDeep
      | depth + 1 => .array <$> items.mapM (tree.value depth)
  | .mapping _ tag entries =>
    if tag.any Tag.isLocal then throw .unknownTag
    else
      match depth with
      | 0 => throw .tooDeep
      | depth + 1 => do
        -- a key is read before its value, so its aliases count first
        let members ← entries.mapM fun (key, value) => do
          let key ← tree.keyText key
          let value ← tree.value depth value
          pure (key, value)
        pure (.object (Keyed.ofList members).entries)

/-- How often the aliases of a document may be followed. -/
def Tree.aliasLimit (tree : Tree) : Nat := 100 * tree.root.marks

/-- Reads a YAML text. A text without a document is null. -/
def readValue (text : String) : Except Fault Json := do
  match ← Tree.ofText? text with
  | none => .ok .null
  | some tree =>
    let (value, _) ← (tree.value depthLimit tree.root).run tree.aliasLimit
    .ok value

end ServiceContract.Yaml
