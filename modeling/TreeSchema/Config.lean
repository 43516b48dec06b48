import TreeSchema.Document

/-!
# Configuration files

A YAML mapping that names the schemas to register before a run: `schema_dirs`, a
list of directories, and `schemas`, a mapping from ids to files. Either may be
left out, and nothing else may stand there. Scalars are taken by their text
whatever their tag. Relative paths start at the directory of the configuration
file.
-/

namespace TreeSchema

structure Config where
  schemaDirectories : List FilePath
  /-- The file of each id, in the order of the ids. -/
  schemas : List (String × FilePath)

namespace Config

open Yaml

def empty : Config := ⟨[], []⟩

/-- Whether a node is left out or a plain scalar without text. -/
def isBlank : Node Nat → Bool
  | .scalar _ text style => text = "" && style = .plain
  | _ => false

def scalarText (document : Document) (node : Node Nat) : Follow String := do
  match ← document.follow node with
  | .scalar _ text _ => return text
  | _ => failure

def readTexts (document : Document) (node : Node Nat) : Follow (List String) := do
  match ← document.follow node with
  | .sequence _ items => items.mapM (scalarText document)
  | node =>
    guard (isBlank node)
    return []

/-- The texts of a mapping from texts to texts; a later entry wins. -/
def readTextEntries (document : Document) (node : Node Nat) : Follow (List (String × String)) := do
  match ← document.follow node with
  | .mapping _ entries =>
    let pairs ← entries.mapM fun (key, value) => do
      let key ← scalarText document key
      let value ← scalarText document value
      return (key, value)
    return Assoc.ofList pairs
  | node =>
    guard (isBlank node)
    return []

/-- The parts of a configuration that have been read. -/
structure Parts where
  schemaDirectories : Option (List String)
  schemas : Option (List (String × String))

/-- Reads the entries of a configuration. No part comes twice. -/
def readParts (document : Document) (parts : Parts) :
    List (Node Nat × Node Nat) → Follow Parts
  | [] => return parts
  | (key, value) :: rest => do
    match ← scalarText document key with
    | "schema_dirs" =>
      guard parts.schemaDirectories.isNone
      let texts ← readTexts document value
      readParts document { parts with schemaDirectories := some texts } rest
    | "schemas" =>
      guard parts.schemas.isNone
      let entries ← readTextEntries document value
      readParts document { parts with schemas := some entries } rest
    | _ => failure

def readRoot (document : Document) : Follow Parts := do
  match ← document.follow document.root with
  | .mapping _ entries => readParts document ⟨none, none⟩ entries
  | node =>
    guard (isBlank node)
    return ⟨none, none⟩

/-- The configuration that a text holds, with paths as written. -/
def ofText? (text : String) : Option Config := do
  let document ← Document.ofText? text
  let (parts, _) ← (readRoot document).run 0
  return {
    schemaDirectories := (parts.schemaDirectories.getD []).map FilePath.mk
    schemas := (parts.schemas.getD []).map fun (id, path) => (id, ⟨path⟩) }

/-- The configuration with its paths read from a directory. -/
def under (config : Config) (base : FilePath) : Config where
  schemaDirectories := config.schemaDirectories.map (·.under base)
  schemas := config.schemas.map fun (id, path) => (id, path.under base)

end Config

end TreeSchema
