import TreeSchema.Json.Printer
import TreeSchema.Location
import TreeSchema.ValueType

/-!
# Violations

A violation is a location and a fault. The fault is the cause; its kind and its
wording are functions of it.
-/

namespace TreeSchema

inductive ViolationKind where
  | circularReference
  | unresolvedReference
  | typeMismatch
  | combinator
  | constraint
  | valueMismatch
  | invalidSchema
  deriving DecidableEq, Repr

def ViolationKind.name : ViolationKind → String
  | .circularReference => "circular_reference"
  | .unresolvedReference => "unresolved_reference"
  | .typeMismatch => "type_mismatch"
  | .combinator => "combinator"
  | .constraint => "constraint"
  | .valueMismatch => "value_mismatch"
  | .invalidSchema => "invalid_schema"

/-- What is wrong with a value, or with the schema node it was checked against. -/
inductive Fault where
  | nothingAllowed
  | schemaNotNode (found : ValueType)
  | invalidPattern (pattern : String)
  | referenceNotString (found : Value)
  | circularReference (token : String)
  | unresolvedReference (token : String)
  | oneOfMatched (count : Nat)
  | anyOfUnmatched
  | notMatched
  | notConst (expected : Value)
  | notInEnum (options : List Value)
  | wrongType (declared : Value) (found : ValueType)
  | stringTooShort (length limit : Nat)
  | stringTooLong (length limit : Nat)
  | patternMismatch (pattern : String)
  | belowMinimum (n limit : Number)
  | atOrBelowExclusiveMinimum (n limit : Number)
  | aboveMaximum (n limit : Number)
  | atOrAboveExclusiveMaximum (n limit : Number)
  | notMultipleOf (n divisor : Number)
  | propertyMissing
  | propertyNotAllowed
  | tooFewProperties (count limit : Nat)
  | tooManyProperties (count limit : Nat)
  | tooFewItems (count limit : Nat)
  | tooManyItems (count limit : Nat)
  | repeatedItem (first later : Nat)

namespace Fault

def kind : Fault → ViolationKind
  | .schemaNotNode _ | .invalidPattern _ => .invalidSchema
  | .referenceNotString _ | .unresolvedReference _ => .unresolvedReference
  | .circularReference _ => .circularReference
  | .oneOfMatched _ | .anyOfUnmatched | .notMatched => .combinator
  | .notConst _ | .notInEnum _ => .valueMismatch
  | .wrongType .. => .typeMismatch
  | _ => .constraint

/-- The text of the fault. For an invalid expression the program adds a colon and
the reason that the library for expressions gives; that part is left out. -/
def message : Fault → String
  | .nothingAllowed => "no value is allowed here"
  | .schemaNotNode found => s!"schema must be an object or boolean, found {found.name}"
  | .invalidPattern pattern => "invalid regular expression \"" ++ pattern ++ "\""
  | .referenceNotString found =>
    s!"unresolved reference: $ref must be a string, found {Json.compact found}"
  | .circularReference token => s!"circular reference: {token}"
  | .unresolvedReference token => s!"unresolved reference: {token}"
  | .oneOfMatched count =>
    s!"value must match exactly one schema in oneOf, but matched {count}"
  | .anyOfUnmatched => "value does not match any schema in anyOf"
  | .notMatched => "value must not match the schema in not"
  | .notConst expected => s!"value does not equal const {Json.compact expected}"
  | .notInEnum options =>
    s!"value is not one of the allowed values {Json.compact (.array options)}"
  | .wrongType declared found => s!"expected type {Json.compact declared}, found {found.name}"
  | .stringTooShort length limit => s!"string length {length} is less than minLength {limit}"
  | .stringTooLong length limit => s!"string length {length} is greater than maxLength {limit}"
  | .patternMismatch pattern => "string does not match pattern \"" ++ pattern ++ "\""
  | .belowMinimum n limit => s!"{n.text} is less than minimum {limit.text}"
  | .atOrBelowExclusiveMinimum n limit =>
    s!"{n.text} is less than or equal to exclusive minimum {limit.text}"
  | .aboveMaximum n limit => s!"{n.text} is greater than maximum {limit.text}"
  | .atOrAboveExclusiveMaximum n limit =>
    s!"{n.text} is greater than or equal to exclusive maximum {limit.text}"
  | .notMultipleOf n divisor => s!"{n.text} is not a multiple of {divisor.text}"
  | .propertyMissing => "Required property missing"
  | .propertyNotAllowed => "Additional property not allowed"
  | .tooFewProperties count limit =>
    s!"object has {count} properties, fewer than minProperties {limit}"
  | .tooManyProperties count limit =>
    s!"object has {count} properties, more than maxProperties {limit}"
  | .tooFewItems count limit => s!"array has {count} items, fewer than minItems {limit}"
  | .tooManyItems count limit => s!"array has {count} items, more than maxItems {limit}"
  | .repeatedItem first later =>
    s!"array items at index {first} and {later} are equal, but uniqueItems is set"

end Fault

structure Violation where
  location : Location
  fault : Fault

namespace Violation

def kind (v : Violation) : ViolationKind := v.fault.kind
def message (v : Violation) : String := v.fault.message

def text (v : Violation) : String :=
  let place := if v.location.isRoot then "(root)" else v.location.text
  s!"  {place}: {v.message}"

end Violation

/-- The result of one validation: its violations in the order of discovery. -/
structure Outcome where
  violations : List Violation

namespace Outcome

def isValid (o : Outcome) : Bool := o.violations.isEmpty

def text (o : Outcome) : String := Text.join "\n" (o.violations.map Violation.text)

end Outcome

end TreeSchema
