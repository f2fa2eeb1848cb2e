import ServiceContract.Settings
import ServiceContract.Yaml.Anchor
import ServiceContract.Yaml.Plain

/-!
# Settings from YAML text

Settings are written as a mapping of their names; names that are no setting are passed over, and a
setting may be given once. The text of any scalar can be a type name, while a switch has to be a
plain truth value. A text that is empty or holds an empty scalar leaves all settings as they are.
-/

namespace ServiceContract.Settings

open Yaml (Fault Node Style Tree)

/-- The node that an alias stands for; other nodes stand for themselves. -/
def target (tree : Tree) : Node Nat → Except Fault (Node Nat)
  | .aliasOf number =>
    match tree.targets.lookup number with
    | some node => .ok node
    | none => .error .unknownAnchor
  | node => .ok node

/-- The text of a scalar. -/
def scalarText (tree : Tree) (node : Node Nat) : Except Fault String := do
  match ← target tree node with
  | .scalar _ _ text _ => .ok text
  | .aliasOf _ | .sequence .. | .mapping .. => .error .noSettings

/-- Whether a scalar's text can be a truth value: it is plain, or it is literal and its tag says
so. -/
def maySwitch (tag : Option Yaml.Tag) (style : Style) : Bool :=
  style == .plain || (style == .literal && tag == some (.standard "bool"))

/-- The truth value of a scalar. -/
def scalarSwitch (tree : Tree) (node : Node Nat) : Except Fault Bool := do
  match ← target tree node with
  | .scalar _ tag text style =>
    match Yaml.truthValue? text with
    | some b => if maySwitch tag style then .ok b else .error .noSettings
    | none => .error .noSettings
  | .aliasOf _ | .sequence .. | .mapping .. => .error .noSettings

/-- Reads the setting `name` from a node. Names that are no setting change nothing. -/
def set (tree : Tree) (s : Settings) (name : String) (node : Node Nat) :
    Except Fault Settings := do
  match name with
  | "defaultSuccessType" => .ok { s with defaultSuccessType := ← scalarText tree node }
  | "defaultErrorType" => .ok { s with defaultErrorType := ← scalarText tree node }
  | "generateRequestTypes" => .ok { s with generateRequestTypes := ← scalarSwitch tree node }
  | "generateResponseDecoders" =>
    .ok { s with generateResponseDecoders := ← scalarSwitch tree node }
  | "strictInterfaces" => .ok { s with strictInterfaces := ← scalarSwitch tree node }
  | "noContentMarker" => .ok { s with noContentMarker := ← scalarText tree node }
  | "genericErrorMarker" => .ok { s with genericErrorMarker := ← scalarText tree node }
  | _ => .ok s

/-- Reads the entries of a mapping. The names in `given` have been read. -/
def readEntries (tree : Tree) (s : Settings) (given : List String) :
    List (Node Nat × Node Nat) → Except Fault Settings
  | [] => .ok s
  | (key, node) :: rest => do
    let name ← scalarText tree key
    let known := record.fields.any (·.name == name)
    if known && given.contains name then .error .duplicateSetting
    else
      let s ← set tree s name node
      readEntries tree s (name :: given) rest

/-- Reads settings from a YAML text. -/
def ofText (text : String) : Except Fault Settings := do
  match ← Tree.ofText? text with
  | none => .ok {}
  | some tree =>
    match tree.root with
    | .mapping _ _ entries => readEntries tree {} [] entries
    | .scalar _ _ "" .plain => .ok {}
    | .scalar .. | .sequence .. | .aliasOf _ => .error .noSettings

end ServiceContract.Settings
