import TreeSchema.Equality
import TreeSchema.Keyword
import TreeSchema.Reference

/-!
# Validation

A value is checked against a schema by one descent through both. The keywords
of a node are evaluated in a fixed order, `step`, and the descent calls itself
through the argument `check`: `step` says what one node asks for, `check` ties
the knot with a bound on the nesting. A branch follows no token twice, so
`nestingBound` is never reached.

References resolve against the schema that the validation started from, never
against the node that contains them. `if`, `oneOf`, `anyOf` and `not` use only
whether their subschemas are satisfied; what was found there is dropped.
-/

namespace TreeSchema

namespace Validation

structure Scope where
  root : Value
  registry : Registry

structure Frame where
  value : Value
  location : Location
  schema : Value
  trail : Trail

/-- Checking a frame yields its violations in the order of discovery. -/
abbrev Check := Frame → List Violation

namespace Frame

def violation (f : Frame) (fault : Fault) : Violation := ⟨f.location, fault⟩

def violations (f : Frame) (faults : List Fault) : List Violation := faults.map f.violation

def against (f : Frame) (schema : Value) : Frame := { f with schema }

def atKey (f : Frame) (key : String) (value schema : Value) : Frame :=
  { f with value, schema, location := .key f.location key }

def atIndex (f : Frame) (position : Nat) (value schema : Value) : Frame :=
  { f with value, schema, location := .index f.location position }

end Frame

def passes (check : Check) (f : Frame) : Bool := (check f).isEmpty

-- -----------------------------------------------------------------------------
-- References and conditions

/-- A reference is replaced by the schema that it names. -/
def followReference (scope : Scope) (check : Check) (reference : Value) (f : Frame) :
    List Violation :=
  match reference with
  | .string token =>
    if f.trail.contains token then [f.violation (.circularReference token)]
    else match Reference.resolve token scope.root scope.registry with
      | some target => check { f with schema := target, trail := f.trail.extend token }
      | none => [f.violation (.unresolvedReference token)]
  | other => [f.violation (.referenceNotString other)]

def checkCondition (check : Check) (node : Members) (f : Frame) : List Violation :=
  (node.lookup "if").elim [] fun condition =>
    let branch := if passes check (f.against condition) then "then" else "else"
    (node.lookup branch).elim [] fun schema => check (f.against schema)

-- -----------------------------------------------------------------------------
-- Combinators

def checkOneOf (check : Check) (node : Members) (f : Frame) : List Violation :=
  (node.items? "oneOf").elim [] fun options =>
    let count := options.countP fun option => passes check (f.against option)
    f.violations (Fault.when (count ≠ 1) (.oneOfMatched count))

def checkAllOf (check : Check) (node : Members) (f : Frame) : List Violation :=
  (node.items? "allOf").elim [] fun schemas =>
    schemas.flatMap fun schema => check (f.against schema)

def checkAnyOf (check : Check) (node : Members) (f : Frame) : List Violation :=
  (node.items? "anyOf").elim [] fun options =>
    f.violations (Fault.when (!options.any fun option => passes check (f.against option))
      .anyOfUnmatched)

def checkNot (check : Check) (node : Members) (f : Frame) : List Violation :=
  (node.lookup "not").elim [] fun negated =>
    f.violations (Fault.when (passes check (f.against negated)) .notMatched)

-- -----------------------------------------------------------------------------
-- Fixed values and types

def constFaults (value : Value) (node : Members) : List Fault :=
  (node.lookup "const").elim [] fun expected =>
    Fault.when (!value.equal expected) (.notConst expected)

def enumFaults (value : Value) (node : Members) : List Fault :=
  (node.items? "enum").elim [] fun options =>
    Fault.when (!options.any value.equal) (.notInEnum options)

def typeFaults (value : Value) (node : Members) : List Fault :=
  (node.lookup "type").elim [] fun declared =>
    Fault.when (!ValueType.declarationAccepts declared value) (.wrongType declared (.of value))

-- -----------------------------------------------------------------------------
-- Objects

def checkRequired (members node : Members) (f : Frame) : List Violation :=
  (node.items? "required").elim [] fun required =>
    ((required.filterMap Value.asString?).filter fun key => !Assoc.contains members key).map
      fun key => ⟨.key f.location key, .propertyMissing⟩

def memberCountFaults (members node : Members) : List Fault :=
  let count := members.length
  (node.count? "minProperties").elim [] (fun limit =>
    Fault.when (count < limit) (.tooFewProperties count limit)) ++
  (node.count? "maxProperties").elim [] (fun limit =>
    Fault.when (limit < count) (.tooManyProperties count limit))

def declaredProperties (node : Members) : Members := (node.members? "properties").getD []

def patternProperties (node : Members) : List (String × Option Pattern × Value) :=
  ((node.members? "patternProperties").getD []).map fun (source, schema) =>
    (source, Pattern.ofString? source, schema)

def checkProperties (check : Check) (members node : Members) (f : Frame) : List Violation :=
  (declaredProperties node).flatMap fun (key, schema) =>
    (members.lookup key).elim [] fun child => check (f.atKey key child schema)

def checkPatternProperties (check : Check) (members : Members)
    (patterns : List (String × Option Pattern × Value)) (f : Frame) : List Violation :=
  patterns.flatMap fun (source, pattern?, schema) =>
    match pattern? with
    | some pattern =>
      (members.filter fun (key, _) => pattern.matchesText key).flatMap fun (key, child) =>
        check (f.atKey key child schema)
    | none => [f.violation (.invalidPattern source)]

def isAdditional (node : Members) (patterns : List (String × Option Pattern × Value))
    (key : String) : Bool :=
  !Assoc.contains (declaredProperties node) key &&
    !patterns.any fun (_, pattern?, _) => pattern?.any (·.matchesText key)

def checkAdditional (check : Check) (members node : Members)
    (patterns : List (String × Option Pattern × Value)) (f : Frame) : List Violation :=
  (node.lookup "additionalProperties").elim [] fun additional =>
    (members.filter fun (key, _) => isAdditional node patterns key).flatMap fun (key, child) =>
      match additional with
      | .bool false => [⟨.key f.location key, .propertyNotAllowed⟩]
      | .bool true => []
      | schema => check (f.atKey key child schema)

def checkObject (check : Check) (members node : Members) (f : Frame) : List Violation :=
  let patterns := patternProperties node
  checkRequired members node f ++
  f.violations (memberCountFaults members node) ++
  checkProperties check members node f ++
  checkPatternProperties check members patterns f ++
  checkAdditional check members node patterns f

-- -----------------------------------------------------------------------------
-- Arrays

def itemCountFaults (items : List Value) (node : Members) : List Fault :=
  let count := items.length
  (node.count? "minItems").elim [] (fun limit =>
    Fault.when (count < limit) (.tooFewItems count limit)) ++
  (node.count? "maxItems").elim [] (fun limit =>
    Fault.when (limit < count) (.tooManyItems count limit))

/-- One fault for each item that repeats an earlier one, with the first of
those. -/
def repetitionFaults (items : List Value) : List Fault :=
  items.zipIdx.filterMap fun (later, position) =>
    ((items.take position).findIdx? fun earlier => earlier.equal later).map
      fun first => .repeatedItem first position

def uniquenessFaults (items : List Value) (node : Members) : List Fault :=
  if node.bool? "uniqueItems" = some true then repetitionFaults items else []

/-- An array of schemas is applied position by position as far as both reach;
any other schema applies to every item. -/
def checkItems (check : Check) (items : List Value) (node : Members) (f : Frame) :
    List Violation :=
  (node.lookup "items").elim [] fun
    | .array schemas =>
      (items.zip schemas).zipIdx.flatMap fun ((item, schema), position) =>
        check (f.atIndex position item schema)
    | schema =>
      items.zipIdx.flatMap fun (item, position) => check (f.atIndex position item schema)

def checkArray (check : Check) (items : List Value) (node : Members) (f : Frame) :
    List Violation :=
  f.violations (itemCountFaults items node ++ uniquenessFaults items node) ++
  checkItems check items node f

-- -----------------------------------------------------------------------------
-- The descent

/-- The keywords that depend on the kind of value. -/
def checkShape (check : Check) (node : Members) (f : Frame) : List Violation :=
  match f.value with
  | .string s => f.violations (stringFaults s node)
  | .number n => f.violations (numberFaults n node)
  | .object members => checkObject check members node f
  | .array items => checkArray check items node f
  | .null | .bool _ => []

/-- All keywords of a node without a reference. A wrong constant or type ends
the node. -/
def checkKeywords (check : Check) (node : Members) (f : Frame) : List Violation :=
  checkCondition check node f ++
  checkOneOf check node f ++
  match constFaults f.value node with
  | _ :: _ => f.violations (constFaults f.value node)
  | [] =>
    f.violations (enumFaults f.value node) ++
    match typeFaults f.value node with
    | _ :: _ => f.violations (typeFaults f.value node)
    | [] =>
      checkShape check node f ++
      checkAllOf check node f ++
      checkAnyOf check node f ++
      checkNot check node f

def step (scope : Scope) (check : Check) (f : Frame) : List Violation :=
  match f.schema with
  | .bool true => []
  | .bool false => [f.violation .nothingAllowed]
  | .object node =>
    match node.lookup "$ref" with
    | some reference => followReference scope check reference f
    | none => checkKeywords check node f
  | other => [f.violation (.schemaNotNode (.of other))]

/-- The descent, at most `bound` frames deep. -/
def check (scope : Scope) (bound : Nat) : Check :=
  match bound with
  | 0 => fun _ => []
  | bound + 1 => step scope (check scope bound)

namespace Scope

def documents (scope : Scope) : List Value :=
  scope.root :: scope.registry.documents.map Prod.snd

/-- Every token that a reference in the scope may follow. -/
def tokens (scope : Scope) : List String :=
  (scope.documents.flatMap (Value.stringsUnder "$ref")).eraseDups

def height (scope : Scope) : Nat := (scope.documents.map Value.height).foldr max 0

/-- A branch descends through at most one document before each token that it
follows, and through one more after the last. -/
def nestingBound (scope : Scope) : Nat := (scope.tokens.length + 1) * scope.height

end Scope

end Validation

open Validation

namespace Registry

/-- The violations of `value` against `schema`, which is also the root that
pointers start from. -/
def validate (registry : Registry) (value schema : Value) : Outcome :=
  let scope : Scope := ⟨schema, registry⟩
  ⟨check scope scope.nestingBound ⟨value, .root, schema, .empty⟩⟩

/-- Validation against a registered schema. `none` if `id` is not registered. -/
def validateRegistered (registry : Registry) (value : Value) (id : String) : Option Outcome :=
  (registry.lookup id).map (registry.validate value)

end Registry

end TreeSchema
