import TreeSchema.Files.FileSystem
import TreeSchema.Json.Reader
import TreeSchema.Yaml.Composition

/-!
# Documents

A document is the text of a value tree in JSON or YAML. YAML holds more than the
data model: tags are dropped, keys that are scalars become strings, and other
keys and numbers that are not finite are faults.
-/

namespace TreeSchema

inductive ParseFault where
  | invalidJson
  | invalidYaml
  | numberNotFinite (n : Yaml.Numeric)
  | keyNotScalar (key : Yaml.Data)

/-- The text of the fault. For invalid JSON or YAML the program adds a colon and
what the library that reads it says; that part is left out. -/
def ParseFault.message : ParseFault → String
  | .invalidJson => "invalid JSON"
  | .invalidYaml => "invalid YAML"
  | .numberNotFinite n => s!"YAML number {n.text} has no JSON representation"
  | .keyNotScalar key => s!"YAML map key {key.describe} is not a scalar"

-- -----------------------------------------------------------------------------
-- From YAML to the data model

namespace Value

/-- An integer where a word holds it, signed or unsigned, and else a double. -/
def numberOfYaml (n : Yaml.Numeric) : Except ParseFault Number :=
  match n.asSigned?.or n.asUnsigned? with
  | some i => .ok (.integer i)
  | none =>
    match n.asDouble? with
    | some d => .ok (.double d)
    | none => .error (.numberNotFinite n)

def keyOfYaml : Yaml.Data → Except ParseFault String
  | .string s => .ok s
  | .number n => .ok n.text
  | .bool b => .ok (if b then "true" else "false")
  | key => .error (.keyNotScalar key)

mutual
/-- The value tree of YAML data. The first fault in reading order is
reported. -/
def ofYaml : Yaml.Data → Except ParseFault Value
  | .null => .ok .null
  | .bool b => .ok (.bool b)
  | .number n => (numberOfYaml n).map .number
  | .string s => .ok (.string s)
  | .sequence items => (itemsOfYaml items).map .array
  | .mapping entries => (pairsOfYaml entries).map .ofPairs
  | .tagged _ content => ofYaml content

def itemsOfYaml : List Yaml.Data → Except ParseFault (List Value)
  | [] => .ok []
  | item :: rest => do return (← ofYaml item) :: (← itemsOfYaml rest)

def pairsOfYaml : List (Yaml.Data × Yaml.Data) → Except ParseFault (List (String × Value))
  | [] => .ok []
  | (key, child) :: rest => do
    let key ← keyOfYaml key
    let child ← ofYaml child
    return (key, child) :: (← pairsOfYaml rest)
end

end Value

-- -----------------------------------------------------------------------------
-- Texts

inductive Format where
  | json
  | yaml
  deriving DecidableEq

def Format.ofPath? (path : FilePath) : Option Format :=
  match path.extension? with
  | some "json" => some .json
  | some "yaml" | some "yml" => some .yaml
  | _ => none

/-- Arrays and objects in a JSON document may be nested this deep. -/
def greatestJsonDepth : Nat := 127

def parseDocument (format : Format) (text : String) : Except ParseFault Value :=
  match format with
  | .json =>
    match Json.read greatestJsonDepth text with
    | some value => .ok value
    | none => .error .invalidJson
  | .yaml =>
    match Yaml.Data.ofText? text with
    | some data => Value.ofYaml data
    | none => .error .invalidYaml

-- -----------------------------------------------------------------------------
-- Files

inductive LoadFault where
  | unreadable (error : FileError)
  | unparsable (fault : ParseFault)

def LoadFault.message : LoadFault → String
  | .unreadable error => s!"cannot read file: {error.message}"
  | .unparsable fault => fault.message

/-- The document in a file. A file without a known extension holds JSON. -/
def FileSystem.loadDocument (files : FileSystem) (path : FilePath) : Except LoadFault Value := do
  let text ← (files.read path).mapError .unreadable
  (parseDocument ((Format.ofPath? path).getD .json) text).mapError .unparsable

end TreeSchema
