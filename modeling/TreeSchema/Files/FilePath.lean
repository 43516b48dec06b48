import TreeSchema.Text

/-!
# File paths

A path is a text whose slashes separate its steps. Empty segments and `.` are
not steps, save a `.` at the very start. Paths keep the spelling they were
given.
-/

namespace TreeSchema

structure FilePath where
  text : String
  deriving DecidableEq

namespace FilePath

def isAbsolute (p : FilePath) : Bool := p.text.toList.head? == some '/'

def segments (p : FilePath) : List String := (Text.split '/' p.text.toList).map String.ofList

def stepPositions (p : FilePath) : List Nat :=
  (p.segments.zipIdx.filter fun (segment, i) =>
    segment ≠ "" && (segment ≠ "." || i = 0)).map Prod.snd

def fileName? (p : FilePath) : Option String := do
  let position ← p.stepPositions.getLast?
  let name ← p.segments[position]?
  guard (name ≠ "." && name ≠ "..")
  return name

/-- What follows the last dot of the file name, unless only that dot stands
before it. -/
def extension? (p : FilePath) : Option String := do
  let name := (← p.fileName?).toList
  let extension := (name.reverse.takeWhile (· ≠ '.')).reverse
  guard (extension.length + 1 < name.length)
  return String.ofList extension

def parent? (p : FilePath) : Option FilePath :=
  match p.stepPositions.reverse with
  | [] => none
  | [_] => some ⟨if p.isAbsolute then "/" else ""⟩
  | _ :: before :: _ => some ⟨Text.join "/" (p.segments.take (before + 1))⟩

/-- The path read from `base`, unless it is absolute. -/
def under (p base : FilePath) : FilePath :=
  if p.isAbsolute then p
  else if base.text = "" || base.text.toList.getLast? == some '/' then ⟨base.text ++ p.text⟩
  else ⟨base.text ++ "/" ++ p.text⟩

end FilePath

end TreeSchema
