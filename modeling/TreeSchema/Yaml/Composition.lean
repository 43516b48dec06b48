import TreeSchema.Yaml.Node
import TreeSchema.Yaml.Resolution

/-!
# Data of a document

Replaces each alias of a document by what its anchor stands for. Anchors are
numbered by how many different names were in use before them, and an alias
stands for the last node whose anchor has its number. Nesting and the number of
aliases that are followed are limited.
-/

namespace TreeSchema.Yaml

-- -----------------------------------------------------------------------------
-- Linking

structure Anchors where
  /-- The number of each name. -/
  numbers : List (String × Nat)
  /-- The latest node of each number, by its place among the anchored nodes. -/
  places : List (Nat × Nat)
  /-- The anchored nodes that are complete, by their place. -/
  nodes : List (Nat × Node Nat)
  /-- How many anchored nodes there are. -/
  count : Nat

namespace Anchors

def empty : Anchors := ⟨[], [], [], 0⟩

/-- Enters the anchor of a node, and tells the node's place. -/
def enter (name : String) (anchors : Anchors) : Nat × Anchors :=
  let number := anchors.numbers.length
  (anchors.count, { anchors with
    numbers := (name, number) :: anchors.numbers.filter (·.1 ≠ name)
    places := (number, anchors.count) :: anchors.places
    count := anchors.count + 1 })

def complete (place : Nat) (node : Node Nat) (anchors : Anchors) : Anchors :=
  { anchors with nodes := (place, node) :: anchors.nodes }

/-- The node that aliases of a number stand for. -/
def target? (anchors : Anchors) (number : Nat) : Option (Node Nat) :=
  (anchors.places.lookup number).bind fun place => anchors.nodes.lookup place

end Anchors

abbrev Link := StateT Anchors Option

namespace Node

/-- Enters the node's anchor, if it has one, around the linking of its
content. -/
def anchored (properties : Properties) (content : Link (Node Nat)) : Link (Node Nat) := do
  match properties.anchor with
  | none => content
  | some name =>
    let place ← modifyGet (Anchors.enter name)
    let node ← content
    modify (Anchors.complete place node)
    return node

mutual
/-- The node with its aliases numbered. An anchor must come before its
aliases. -/
def link : Node String → Link (Node Nat)
  | .alias name => do
    let some number := (← get).numbers.lookup name | failure
    return .alias number
  | .scalar properties text style => anchored properties (return .scalar properties text style)
  | .sequence properties items =>
    anchored properties do return .sequence properties (← linkItems items)
  | .mapping properties entries =>
    anchored properties do return .mapping properties (← linkEntries entries)

def linkItems : List (Node String) → Link (List (Node Nat))
  | [] => return []
  | item :: rest => do return (← link item) :: (← linkItems rest)

def linkEntries : List (Node String × Node String) → Link (List (Node Nat × Node Nat))
  | [] => return []
  | (key, value) :: rest => do
    let key ← link key
    let value ← link value
    return (key, value) :: (← linkEntries rest)
end

mutual
/-- Scalars, aliases, and both ends of each collection. -/
def eventCount : Node String → Nat
  | .alias _ | .scalar .. => 1
  | .sequence _ items => eventCountOfItems items + 2
  | .mapping _ entries => eventCountOfEntries entries + 2

def eventCountOfItems : List (Node String) → Nat
  | [] => 0
  | item :: rest => eventCount item + eventCountOfItems rest

def eventCountOfEntries : List (Node String × Node String) → Nat
  | [] => 0
  | (key, value) :: rest => eventCount key + eventCount value + eventCountOfEntries rest
end

end Node

structure Document where
  root : Node Nat
  anchors : Anchors
  /-- How many aliases may be followed. -/
  aliasLimit : Nat

def Document.ofText? (text : String) : Option Document := do
  let node ← Node.ofText? text
  let (root, anchors) ← (node.link).run .empty
  return ⟨root, anchors, 100 * node.eventCount⟩

-- -----------------------------------------------------------------------------
-- Following aliases

/-- A computation that counts the aliases that it follows. -/
abbrev Follow := StateT Nat Option

namespace Document

/-- The node itself, or the one that it is an alias of. -/
def follow (document : Document) (node : Node Nat) : Follow (Node Nat) := do
  let .alias number := node | return node
  modify (· + 1)
  guard ((← get) ≤ document.aliasLimit)
  let some target := document.anchors.target? number | failure
  return target

/-- How deep collections may be nested. -/
def greatestDepth : Nat := 128

def withTag (tag : Option String) (content : Data) : Data :=
  match localTag? tag with
  | some name => .tagged name content
  | none => content

/-- Adds entries in order. A key may not come twice. -/
def entriesOf (read : Node Nat → Follow Data) :
    List (Data × Data) → List (Node Nat × Node Nat) → Follow (List (Data × Data))
  | entries, [] => return entries
  | entries, (key, value) :: rest => do
    let key ← read key
    guard !(entries.any (·.1.sameKey key))
    let value ← read value
    entriesOf read (entries ++ [(key, value)]) rest

/-- The value of a node, given how to read the nodes inside it. -/
def dataWith (document : Document) (read : Node Nat → Follow Data) (node : Node Nat) :
    Follow Data := do
  match ← document.follow node with
  | .alias _ => failure
  | .scalar properties text style =>
    match localTag? properties.tag with
    | some name =>
      let some content := scalarData? none text style | failure
      return .tagged name content
    | none =>
      let some content := scalarData? properties.tag text style | failure
      return content
  | .sequence properties items =>
    return withTag properties.tag (.sequence (← items.mapM read))
  | .mapping properties entries =>
    return withTag properties.tag (.mapping (← entriesOf read [] entries))

/-- The value of a node with at most `depth` collections inside one another. -/
def dataOf (document : Document) : Nat → Node Nat → Follow Data
  | 0, node => do
    match ← document.follow node with
    | .scalar properties text style =>
      document.dataWith (fun _ => failure) (.scalar properties text style)
    | _ => failure
  | depth + 1, node => document.dataWith (document.dataOf depth) node

def data? (document : Document) : Option Data :=
  ((document.dataOf greatestDepth document.root).run 0).map Prod.fst

end Document

def Data.ofText? (text : String) : Option Data := (Document.ofText? text).bind Document.data?

end TreeSchema.Yaml
