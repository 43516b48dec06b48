import TreeSchema.Files.FilePath

/-!
# File systems

What a run can see of the files around it: the text of a file, the names in a
directory, and whether a path leads to a file.
-/

namespace TreeSchema

inductive FileError where
  | notFound
  | notDirectory
  | isDirectory
  | notText
  | other (message : String)
  deriving DecidableEq

def FileError.message : FileError → String
  | .notFound => "No such file or directory (os error 2)"
  | .notDirectory => "Not a directory (os error 20)"
  | .isDirectory => "Is a directory (os error 21)"
  | .notText => "stream did not contain valid UTF-8"
  | .other message => message

structure FileSystem where
  read : FilePath → Except FileError String
  /-- The names in a directory, in any order. -/
  entries : FilePath → Except FileError (List String)
  isFile : FilePath → Bool

end TreeSchema
