import TreeSchema.Value

/-!
# Value types

The closed set of categories that the `type` keyword names. A whole number is
both an `integer` and a `number`; a name outside the set matches nothing.
-/

namespace TreeSchema

inductive ValueType where
  | null | boolean | integer | number | string | array | object
  deriving DecidableEq, Repr

namespace ValueType

def all : List ValueType := [.null, .boolean, .integer, .number, .string, .array, .object]

def name : ValueType → String
  | .null => "null"
  | .boolean => "boolean"
  | .integer => "integer"
  | .number => "number"
  | .string => "string"
  | .array => "array"
  | .object => "object"

def ofName? (name : String) : Option ValueType := all.find? (·.name = name)

/-- The most specific type of a value. -/
def of : Value → ValueType
  | .null => .null
  | .bool _ => .boolean
  | .number n => if n.isWhole then .integer else .number
  | .string _ => .string
  | .array _ => .array
  | .object _ => .object

def accepts : ValueType → Value → Bool
  | .null, .null => true
  | .boolean, .bool _ => true
  | .integer, .number n => n.isWhole
  | .number, .number _ => true
  | .string, .string _ => true
  | .array, .array _ => true
  | .object, .object _ => true
  | _, _ => false

def nameAccepts (name : String) (value : Value) : Bool :=
  match ofName? name with
  | some type => type.accepts value
  | none => false

/-- Whether a value fits a declared `type`: one name, or a list of names of
which one must fit. Any other declaration fits nothing. -/
def declarationAccepts (declared value : Value) : Bool :=
  match declared with
  | .string name => nameAccepts name value
  | .array names => (names.filterMap Value.asString?).any (nameAccepts · value)
  | _ => false

end ValueType

end TreeSchema
