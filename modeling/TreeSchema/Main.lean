import TreeSchema.CommandLine

/-!
# The program

Reads the files that a command line names, hands their texts to
`TreeSchema.CommandLine.run`, and prints the result. Directories are not listed
here: a schema directory is reported as unreadable.
-/

namespace TreeSchema.Program

/-- The text of a file, or why there is none. -/
def readText (path : FilePath) : IO (Except FileError String) := do
  try
    let bytes ← IO.FS.readBinFile path.text
    match String.fromUTF8? bytes with
    | some text => return .ok text
    | none => return .error .notText
  catch error =>
    match error with
    | .noFileOrDirectory .. => return .error .notFound
    | .inappropriateType .. => return .error .isDirectory
    | error => return .error (.other (toString error))

def viewOf (texts : List (String × Except FileError String)) : FileSystem where
  read path := (texts.lookup path.text).getD (.error .notFound)
  entries _ := .error (.other "directories cannot be listed")
  isFile path :=
    match texts.lookup path.text with
    | some (.ok _) | some (.error .notText) => true
    | _ => false

def readTexts (paths : List FilePath) : IO (List (String × Except FileError String)) :=
  paths.mapM fun path => return (path.text, ← readText path)

end TreeSchema.Program

open TreeSchema TreeSchema.Program

def main (words : List String) : IO UInt32 := do
  let some command := CommandLine.Command.ofWords? words | return 2
  let config ← readTexts command.configPaths
  let texts ← readTexts (command.filePaths (viewOf config))
  match command.run (viewOf (config ++ texts)) with
  | .ok result =>
    IO.print result.output
    return UInt32.ofNat result.code
  | .error error =>
    IO.eprintln error.message
    return 2
