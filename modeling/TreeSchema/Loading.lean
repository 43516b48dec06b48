import TreeSchema.Document
import TreeSchema.Validation

/-!
# Schemas from files

A schema file is registered under its file name and, before that, under its
`$id` if that is a string. A directory is loaded in the order of the file names,
whatever order the file system lists them in; the first file that fails stops
the load, and the files before it stay registered.
-/

namespace TreeSchema

inductive SchemaLoadFault where
  | unnamed
  | unreadableDirectory (error : FileError)
  | document (path : FilePath) (fault : LoadFault)

inductive SchemaError where
  | validationFailed (name : String) (outcome : Outcome)
  | schemaNotFound (id : String)
  | schemaLoad (name : String) (fault : SchemaLoadFault)
  | documentLoad (path : FilePath) (fault : LoadFault)

/-- The message about a document that could not be loaded. -/
def documentLoadMessage (path : FilePath) (fault : LoadFault) : String :=
  s!"document load error for '{path.text}': {fault.message}"

def SchemaLoadFault.message : SchemaLoadFault → String
  | .unnamed => "file name is not valid UTF-8"
  | .unreadableDirectory error => s!"cannot read schema directory: {error.message}"
  | .document path fault => documentLoadMessage path fault

def SchemaError.message : SchemaError → String
  | .validationFailed name outcome =>
    s!"validation failed against schema '{name}':\n{outcome.text}"
  | .schemaNotFound id => s!"schema '{id}' is not registered"
  | .schemaLoad name fault => s!"schema load error for '{name}': {fault.message}"
  | .documentLoad path fault => documentLoadMessage path fault

/-- Whether an outcome is valid, as a result about the schema `name`. -/
def Outcome.result (outcome : Outcome) (name : String) : Except SchemaError Unit :=
  if outcome.isValid then .ok () else .error (.validationFailed name outcome)

namespace Registry

/-- The ids under which a schema file of some name is registered, in order. -/
def fileIds (name : String) (schema : Value) : List String :=
  ((schema.member? "$id").bind Value.asString?).toList ++ [name]

def registerAll (registry : Registry) (ids : List String) (schema : Value) : Registry :=
  ids.foldl (fun registry id => registry.register id schema) registry

/-- Registers a schema file. Returns the file name with the registry. -/
def loadFile (files : FileSystem) (path : FilePath) (registry : Registry) :
    Except SchemaError (String × Registry) :=
  match path.fileName? with
  | none => .error (.schemaLoad path.text .unnamed)
  | some name =>
    match files.loadDocument path with
    | .error fault => .error (.schemaLoad name (.document path fault))
    | .ok schema => .ok (name, registry.registerAll (fileIds name schema) schema)

/-- Registers files one after the other, up to the first that fails. -/
def loadFiles (files : FileSystem) (registry : Registry) :
    List FilePath → Option SchemaError × Registry
  | [] => (none, registry)
  | path :: rest =>
    match registry.loadFile files path with
    | .error error => (some error, registry)
    | .ok (_, registry) => registry.loadFiles files rest

end Registry

/-- The schema files directly inside a directory, in the order of their
names. -/
def FileSystem.schemaFiles (files : FileSystem) (directory : FilePath) :
    Except FileError (List FilePath) := do
  let names ← files.entries directory
  let paths := (names.mergeSort fun a b => a ≤ b).map fun name =>
    (FilePath.mk name).under directory
  return paths.filter fun path => files.isFile path && (Format.ofPath? path).isSome

namespace Registry

/-- Registers the schema files of a directory. Returns how many there are, or
the failure that stopped the load, with the registry. -/
def loadDirectory (files : FileSystem) (directory : FilePath) (registry : Registry) :
    Except SchemaError Nat × Registry :=
  match files.schemaFiles directory with
  | .error error => (.error (.schemaLoad directory.text (.unreadableDirectory error)), registry)
  | .ok paths =>
    match registry.loadFiles files paths with
    | (some error, registry) => (.error error, registry)
    | (none, registry) => (.ok paths.length, registry)

/-- Validates the document in a file against a registered schema. -/
def validateFile (files : FileSystem) (registry : Registry) (path : FilePath) (id : String) :
    Except SchemaError Unit := do
  let value ← (files.loadDocument path).mapError (.documentLoad path)
  match registry.validateRegistered value id with
  | some outcome => outcome.result s!"{id} ({path.text})"
  | none => throw (.schemaNotFound id)

end Registry

end TreeSchema
