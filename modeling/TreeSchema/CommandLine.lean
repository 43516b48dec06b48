import TreeSchema.Run

/-!
# Command line

The words of a command line are options, operands and the name of a subcommand.
An option is written `--name value`, `--name=value`, `-n value`, `-nvalue` or
`-n=value`, letters of options without a value may share a hyphen, and after
`--` all words are operands. A value does not start with a hyphen unless it is
attached or nothing but a hyphen.
-/

namespace TreeSchema

namespace CommandLine

inductive OptionName where
  | verbose
  | config
  | logJson
  | version
  | schema
  | schemaDirectory
  | register
  | format
  deriving DecidableEq

/-- How often an option may be given, and whether it has a value. -/
inductive Arity where
  | switch
  | counter
  | single
  | repeated
  deriving DecidableEq

structure Parameter where
  name : OptionName
  long : String
  short : Option Char
  arity : Arity

def Parameter.takesValue (p : Parameter) : Bool := p.arity = .single || p.arity = .repeated

def globalParameters : List Parameter :=
  [⟨.verbose, "verbose", some 'v', .counter⟩, ⟨.config, "config", none, .single⟩,
   ⟨.logJson, "log-json", none, .switch⟩]

def topParameters : List Parameter :=
  ⟨.version, "version", some 'V', .switch⟩ :: globalParameters

def sourceParameters : List Parameter :=
  [⟨.schemaDirectory, "schema-dir", none, .repeated⟩, ⟨.register, "register", none, .repeated⟩]

def schemasParameters : List Parameter := sourceParameters ++ globalParameters

def validateParameters : List Parameter :=
  [⟨.schema, "schema", some 's', .single⟩, ⟨.format, "format", none, .single⟩] ++
    sourceParameters ++ globalParameters

-- -----------------------------------------------------------------------------
-- Words

structure Words where
  /-- The options with their values, in order. -/
  given : List (OptionName × String)
  operands : List String
  /-- An option whose value comes next. -/
  pending : Option OptionName
  /-- Whether `--` came before. -/
  onlyOperands : Bool

namespace Words

def empty : Words := ⟨[], [], none, false⟩

def add (words : Words) (name : OptionName) (value : String) : Words :=
  { words with given := words.given ++ [(name, value)], pending := none }

def values (words : Words) (name : OptionName) : List String :=
  (words.given.filter (·.1 = name)).map Prod.snd

def has (words : Words) (name : OptionName) : Bool := words.given.any (·.1 = name)

def value? (words : Words) (name : OptionName) : Option String := (words.values name).head?

def readLong (parameters : List Parameter) (words : Words) (text : List Char) : Option Words := do
  let (name, value) := match Text.splitFirst? '=' text with
    | some (name, value) => (name, some (String.ofList value))
    | none => (text, none)
  let parameter ← parameters.find? (·.long = String.ofList name)
  match value, parameter.takesValue with
  | some value, true => return words.add parameter.name value
  | some _, false => failure
  | none, true => return { words with pending := some parameter.name }
  | none, false => return words.add parameter.name ""

/-- Option letters after one hyphen. What follows the letter of an option with a
value is the value. A request for the version ends the reading. -/
def readShort (parameters : List Parameter) (words : Words) : List Char → Option Words
  | [] => some words
  | letter :: rest => do
    let parameter ← parameters.find? (·.short == some letter)
    if parameter.takesValue then
      match rest with
      | [] => return { words with pending := some parameter.name }
      | '=' :: value => return words.add parameter.name (String.ofList value)
      | value => return words.add parameter.name (String.ofList value)
    else
      let words := words.add parameter.name ""
      if parameter.name = .version then return words
      readShort parameters words rest

def read (parameters : List Parameter) (words : Words) (word : String) : Option Words :=
  if words.onlyOperands then some { words with operands := words.operands ++ [word] }
  else
    match word.toList with
    | ['-', '-'] => do
      guard words.pending.isNone
      return { words with onlyOperands := true }
    | '-' :: '-' :: text => do
      guard words.pending.isNone
      readLong parameters words text
    | '-' :: letter :: letters => do
      guard words.pending.isNone
      readShort parameters words (letter :: letters)
    | _ =>
      match words.pending with
      | some name => some (words.add name word)
      | none => some { words with operands := words.operands ++ [word] }

def isOnce (parameters : List Parameter) (words : Words) : Bool :=
  parameters.all fun p =>
    p.arity = .counter || p.arity = .repeated || (words.values p.name).length ≤ 1

/-- Whether the paths among the values are not empty. -/
def hasPaths (words : Words) : Bool :=
  words.given.all fun (name, value) =>
    !(value = "" && (name = .config || name = .schemaDirectory))

/-- The words up to the name of a subcommand, with that name and the words after
it. A request for the version ends the reading. -/
def readAll (parameters : List Parameter) (subcommands : List String) (words : Words) :
    List String → Option (Words × Option (String × List String))
  | [] => do
    guard words.pending.isNone
    return (words, none)
  | word :: rest =>
    if !words.onlyOperands && words.pending.isNone && subcommands.contains word then
      some (words, some (word, rest))
    else do
      let words ← words.read parameters word
      guard (words.isOnce parameters && words.hasPaths)
      if words.has .version then return (words, none)
      readAll parameters subcommands words rest

end Words

-- -----------------------------------------------------------------------------
-- Commands

inductive Command where
  | version
  | schemas (sources : Sources)
  | validate (sources : Sources) (schema : String) (format : ReportFormat)
      (documents : List FilePath)

/-- The sources that options name. The option of the subcommand goes before that
of the program. -/
def sourcesOf (top sub : Words) : Option Sources := do
  let registrations ← (sub.values .register).mapM Registration.ofText?
  return {
    config := ((sub.value? .config).or (top.value? .config)).map FilePath.mk
    directories := (sub.values .schemaDirectory).map FilePath.mk
    registrations }

def formatOf? (words : Words) : Option ReportFormat :=
  match words.value? .format with
  | none | some "text" => some .text
  | some "json" => some .json
  | some _ => none

def schemasCommand (top : Words) (words : List String) : Option Command := do
  let (sub, _) ← Words.empty.readAll schemasParameters [] words
  guard sub.operands.isEmpty
  return .schemas (← sourcesOf top sub)

def validateCommand (top : Words) (words : List String) : Option Command := do
  let (sub, _) ← Words.empty.readAll validateParameters [] words
  guard (!sub.operands.isEmpty && !sub.operands.contains "")
  return .validate (← sourcesOf top sub) (← sub.value? .schema) (← formatOf? sub)
    (sub.operands.map FilePath.mk)

/-- The command that the words of a command line ask for. -/
def Command.ofWords? (words : List String) : Option Command := do
  let (top, subcommand) ← Words.empty.readAll topParameters ["validate", "schemas"] words
  guard top.operands.isEmpty
  if top.has .version then return .version
  match ← subcommand with
  | ("schemas", words) => schemasCommand top words
  | ("validate", words) => validateCommand top words
  | _ => none

def versionText : String := "arbor 0.1.0\n"

/-- Words that ask for nothing, and runs that fail, end with code `2`. -/
def failed : Result := ⟨2, ""⟩

def Command.run (files : FileSystem) : Command → Except RunError Result
  | .version => .ok ⟨0, versionText⟩
  | .schemas sources => runSchemas files sources
  | .validate sources schema format documents =>
    runValidate files sources schema format documents

def Command.sources : Command → Sources
  | .version => ⟨none, [], []⟩
  | .schemas sources => sources
  | .validate sources .. => sources

def Command.configPaths (command : Command) : List FilePath := command.sources.config.toList

/-- The other files that a command reads outside its schema directories, given
its configuration file. -/
def Command.filePaths (files : FileSystem) (command : Command) : List FilePath :=
  let config := match command.sources.config.map (Config.load files) with
    | some (.ok config) => config
    | _ => .empty
  let named := match command with
    | .validate _ schema _ documents => FilePath.mk schema :: documents
    | _ => []
  config.schemas.map Prod.snd ++ command.sources.registrations.map (·.path) ++ named

/-- The result of a command. One that fails has no output. -/
def Command.result (files : FileSystem) (command : Command) : Result :=
  match command.run files with
  | .ok result => result
  | .error _ => failed

def run (files : FileSystem) (words : List String) : Result :=
  match Command.ofWords? words with
  | none => failed
  | some command => command.result files

end CommandLine

end TreeSchema
