import TreeSchema.Config
import TreeSchema.Loading
import TreeSchema.Report

/-!
# Runs

A run collects schemas from a configuration and from the command line, and then
validates documents or lists the ids. Directories are loaded before single
files, and the configuration comes before the command line among each; a later
source overwrites an id of an earlier one. A run that fails has no output.
-/

namespace TreeSchema

-- -----------------------------------------------------------------------------
-- Sources

/-- A schema file registered under an id on the command line. -/
structure Registration where
  id : String
  path : FilePath

/-- A registration written `ID=PATH`, neither part empty. -/
def Registration.ofText? (text : String) : Option Registration := do
  let (id, path) ← Text.splitFirst? '=' text.toList
  guard (!id.isEmpty && !path.isEmpty)
  return ⟨String.ofList id, ⟨String.ofList path⟩⟩

/-- The message about a text that is no registration. -/
def Registration.malformed (text : String) : String := s!"expected ID=PATH, got '{text}'"

structure Sources where
  config : Option FilePath
  directories : List FilePath
  registrations : List Registration

-- -----------------------------------------------------------------------------
-- Failures

inductive RunError where
  | configUnreadable (path : FilePath) (error : FileError)
  | configInvalid (path : FilePath)
  | directory (path : FilePath) (error : SchemaError)
  | registration (id : String) (path : FilePath) (fault : LoadFault)
  | schemaFile (path : FilePath) (fault : LoadFault)
  | unknownSchema (name : String)
  | document (path : FilePath) (fault : LoadFault)

def RunError.message : RunError → String
  | .configUnreadable path error => s!"cannot read config file {path.text}: {error.message}"
  | .configInvalid path => s!"invalid config file {path.text}"
  | .directory path error => s!"failed to load schema directory {path.text}: {error.message}"
  | .registration id path fault =>
    s!"failed to load schema '{id}': {documentLoadMessage path fault}"
  | .schemaFile path fault =>
    s!"failed to load schema {path.text}: {documentLoadMessage path fault}"
  | .unknownSchema name => s!"'{name}' is neither a schema file nor a registered schema id"
  | .document path fault =>
    s!"failed to load document {path.text}: {documentLoadMessage path fault}"

-- -----------------------------------------------------------------------------
-- Collecting schemas

def Config.load (files : FileSystem) (path : FilePath) : Except RunError Config := do
  let text ← (files.read path).mapError (.configUnreadable path)
  match Config.ofText? text with
  | some config => return config.under (path.parent?.getD ⟨"."⟩)
  | none => throw (.configInvalid path)

namespace Registry

def addDirectories (files : FileSystem) (registry : Registry) :
    List FilePath → Except RunError Registry
  | [] => .ok registry
  | path :: rest =>
    match registry.loadDirectory files path with
    | (.ok _, registry) => registry.addDirectories files rest
    | (.error error, _) => .error (.directory path error)

def addFiles (files : FileSystem) (registry : Registry) :
    List (String × FilePath) → Except RunError Registry
  | [] => .ok registry
  | (id, path) :: rest =>
    match files.loadDocument path with
    | .ok schema => (registry.register id schema).addFiles files rest
    | .error fault => .error (.registration id path fault)

/-- The registry of a configuration and the sources of the command line. -/
def build (files : FileSystem) (config : Config) (directories : List FilePath)
    (registrations : List Registration) : Except RunError Registry := do
  let registry ← empty.addDirectories files (config.schemaDirectories ++ directories)
  registry.addFiles files (config.schemas ++ registrations.map fun r => (r.id, r.path))

end Registry

def Sources.load (files : FileSystem) (sources : Sources) : Except RunError Registry := do
  let config ← match sources.config with
    | some path => Config.load files path
    | none => .ok .empty
  Registry.build files config sources.directories sources.registrations

-- -----------------------------------------------------------------------------
-- Validating documents

/-- The schema that a name stands for: the file at that path, else the registered
schema. -/
def findSchema (files : FileSystem) (registry : Registry) (name : String) :
    Except RunError Value :=
  if files.isFile ⟨name⟩ then (files.loadDocument ⟨name⟩).mapError (.schemaFile ⟨name⟩)
  else
    match registry.lookup name with
    | some schema => .ok schema
    | none => .error (.unknownSchema name)

def validateDocuments (files : FileSystem) (registry : Registry) (schema : Value)
    (documents : List FilePath) : Except RunError (List DocumentReport) :=
  documents.mapM fun path => do
    let value ← (files.loadDocument path).mapError (.document path)
    return ⟨path, registry.validate value schema⟩

/-- The reports on documents that are validated against the schema of a name. -/
def documentReports (files : FileSystem) (sources : Sources) (schema : String)
    (documents : List FilePath) : Except RunError (List DocumentReport) := do
  let registry ← sources.load files
  let schema ← findSchema files registry schema
  validateDocuments files registry schema documents

-- -----------------------------------------------------------------------------
-- Results

structure Result where
  code : Nat
  output : String

inductive ReportFormat where
  | text
  | json
  deriving DecidableEq

def ReportFormat.render : ReportFormat → List DocumentReport → String
  | .text, reports => DocumentReport.textOf reports
  | .json, reports => (DocumentReport.layoutOf reports).indented 0 ++ "\n"

/-- The code is `0` if every document is valid, and `1` otherwise. -/
def runValidate (files : FileSystem) (sources : Sources) (schema : String)
    (format : ReportFormat) (documents : List FilePath) : Except RunError Result := do
  let reports ← documentReports files sources schema documents
  return ⟨if reports.all (·.outcome.isValid) then 0 else 1, format.render reports⟩

def idListing (registry : Registry) : String :=
  String.join (registry.ids.map (· ++ "\n")) ++ s!"\nSchemas: {registry.size}\n"

def runSchemas (files : FileSystem) (sources : Sources) : Except RunError Result := do
  return ⟨0, idListing (← sources.load files)⟩

end TreeSchema
