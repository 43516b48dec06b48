import TreeSchema.Assoc
import TreeSchema.Files.FileSystem

/-!
# File trees

A directory tree held in memory. Paths are followed from its root step by step;
a step out of the root leads into an empty directory.
-/

namespace TreeSchema

/-- A file with its text, or without one if its bytes are not UTF-8, or a
directory. -/
inductive FileTree where
  | file (text : Option String)
  | directory (entries : List (String × FileTree))

namespace FileTree

def empty : FileTree := .directory []

/-- Follows segments from a node, given the nodes above it, the nearest first. -/
def descend (above : List FileTree) (node : FileTree) : List String → Except FileError FileTree
  | [] => .ok node
  | segment :: rest =>
    match node with
    | .file _ => .error .notDirectory
    | .directory entries =>
      if segment = "" ∨ segment = "." then descend above node rest
      else if segment = ".." then
        match above with
        | parent :: above => descend above parent rest
        | [] => descend [] (.directory []) rest
      else
        match entries.lookup segment with
        | some child => descend (node :: above) child rest
        | none => .error .notFound

/-- The node at a path. The empty path leads nowhere. -/
def find (tree : FileTree) (path : FilePath) : Except FileError FileTree :=
  if path.text = "" ∨ path.isAbsolute then .error .notFound
  else descend [] tree path.segments

def read (tree : FileTree) (path : FilePath) : Except FileError String := do
  match ← tree.find path with
  | .file (some text) => return text
  | .file none => throw .notText
  | .directory _ => throw .isDirectory

def entries (tree : FileTree) (path : FilePath) : Except FileError (List String) := do
  match ← tree.find path with
  | .file _ => throw .notDirectory
  | .directory entries => return Assoc.keys entries

def isFile (tree : FileTree) (path : FilePath) : Bool :=
  match tree.find path with
  | .ok (.file _) => true
  | _ => false

def view (tree : FileTree) : FileSystem := ⟨tree.read, tree.entries, tree.isFile⟩

/-- The tree with a node put below it, along the names of the directories that
lead there. A directory that is already there stays. -/
def put (node : FileTree) : List String → FileTree → FileTree
  | [], .directory entries =>
    match node with
    | .directory _ => .directory entries
    | .file text => .file text
  | [], .file _ => node
  | name :: rest, .directory entries =>
    .directory (Assoc.insert name (put node rest ((entries.lookup name).getD empty)) entries)
  | name :: rest, .file _ => .directory [(name, put node rest empty)]

/-- The tree with a file or directory written at a path. -/
def write (tree : FileTree) (path : FilePath) (node : FileTree) : FileTree :=
  put node (path.segments.filter fun segment => segment ≠ "" && segment ≠ ".") tree

end FileTree

end TreeSchema
