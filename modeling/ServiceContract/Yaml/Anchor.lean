import ServiceContract.Yaml.Lexer
import ServiceContract.Yaml.Node

/-!
# Aliases

An alias stands for the node that carries its anchor. Anchors are numbered in the order of their
nodes; a new anchor's number is the count of different names so far, also when it takes a name that
was there before. An alias takes the number its name has when it is met, and stands for the last
node of the document that carries this number.
-/

namespace ServiceContract.Yaml

/-- The numbers of the anchor names met so far. -/
abbrev AnchorNumbers := List (String × Nat)

/-- Gives `name` the next number. -/
def AnchorNumbers.add (numbers : AnchorNumbers) (name : String) : AnchorNumbers × Nat :=
  let number := numbers.length
  if numbers.any (·.1 == name) then
    (numbers.map fun entry => if entry.1 = name then (name, number) else entry, number)
  else (numbers ++ [(name, number)], number)

/-- Numbers an anchor, if there is one. -/
def AnchorNumbers.addAll (numbers : AnchorNumbers) (anchor : Option String) :
    AnchorNumbers × Option Nat :=
  match anchor with
  | none => (numbers, none)
  | some name =>
    let (numbers, number) := numbers.add name
    (numbers, some number)

namespace Node

mutual

/-- Numbers the anchors of a node and of the nodes in it. -/
def number (numbers : AnchorNumbers) : Node String → Except Fault (Node Nat × AnchorNumbers)
  | aliasOf name =>
    match numbers.lookup name with
    | some n => .ok (aliasOf n, numbers)
    | none => .error .unknownAnchor
  | scalar anchor tag text style =>
    let (numbers, anchor) := numbers.addAll anchor
    .ok (scalar anchor tag text style, numbers)
  | sequence anchor tag items => do
    let (numbers, anchor) := numbers.addAll anchor
    let (items, numbers) ← numberItems numbers items
    .ok (sequence anchor tag items, numbers)
  | mapping anchor tag entries => do
    let (numbers, anchor) := numbers.addAll anchor
    let (entries, numbers) ← numberEntries numbers entries
    .ok (mapping anchor tag entries, numbers)

/-- Numbers the anchors of nodes in order. -/
def numberItems (numbers : AnchorNumbers) :
    List (Node String) → Except Fault (List (Node Nat) × AnchorNumbers)
  | [] => .ok ([], numbers)
  | item :: rest => do
    let (item, numbers) ← item.number numbers
    let (rest, numbers) ← numberItems numbers rest
    .ok (item :: rest, numbers)

/-- Numbers the anchors of keys and values in order. -/
def numberEntries (numbers : AnchorNumbers) :
    List (Node String × Node String) → Except Fault (List (Node Nat × Node Nat) × AnchorNumbers)
  | [] => .ok ([], numbers)
  | (key, value) :: rest => do
    let (key, numbers) ← key.number numbers
    let (value, numbers) ← value.number numbers
    let (rest, numbers) ← numberEntries numbers rest
    .ok ((key, value) :: rest, numbers)

end

mutual

/-- The nodes that carry an anchor, with its number, each before the nodes in it. -/
def anchored : Node Nat → List (Nat × Node Nat)
  | aliasOf _ => []
  | scalar anchor tag text style =>
    (anchor.map fun n => (n, scalar anchor tag text style)).toList
  | sequence anchor tag items =>
    (anchor.map fun n => (n, sequence anchor tag items)).toList ++ anchoredItems items
  | mapping anchor tag entries =>
    (anchor.map fun n => (n, mapping anchor tag entries)).toList ++ anchoredEntries entries

/-- The nodes with an anchor among nodes and in them. -/
def anchoredItems : List (Node Nat) → List (Nat × Node Nat)
  | [] => []
  | item :: rest => item.anchored ++ anchoredItems rest

/-- The nodes with an anchor among keys and values and in them. -/
def anchoredEntries : List (Node Nat × Node Nat) → List (Nat × Node Nat)
  | [] => []
  | (key, value) :: rest => key.anchored ++ value.anchored ++ anchoredEntries rest

end

mutual

/-- The number of marks a node is made of: one for a scalar or an alias, two around a collection. -/
def marks : Node Nat → Nat
  | aliasOf _ | scalar .. => 1
  | sequence _ _ items => 2 + marksOfItems items
  | mapping _ _ entries => 2 + marksOfEntries entries

/-- The number of marks of nodes. -/
def marksOfItems : List (Node Nat) → Nat
  | [] => 0
  | item :: rest => item.marks + marksOfItems rest

/-- The number of marks of keys and values. -/
def marksOfEntries : List (Node Nat × Node Nat) → Nat
  | [] => 0
  | (key, value) :: rest => key.marks + value.marks + marksOfEntries rest

end

end Node

/-- A document in which aliases can be looked up. -/
structure Tree where
  root : Node Nat
  /-- The nodes with anchors, the last of the document first. -/
  targets : List (Nat × Node Nat)

/-- Numbers the anchors of a document. -/
def Tree.ofNode (root : Node String) : Except Fault Tree := do
  let (root, _) ← root.number []
  .ok ⟨root, root.anchored.reverse⟩

/-- The tree of a text, or none if the text has no document. -/
def Tree.ofText? (text : String) : Except Fault (Option Tree) := do
  match ← Node.ofTokens? (← Token.scan text.toList) with
  | none => .ok none
  | some root => some <$> Tree.ofNode root

end ServiceContract.Yaml
