import TreeSchema.Pattern
import TreeSchema.Violation

/-!
# Keywords of strings and numbers

Reading a keyword's value from a schema node, and the checks that concern a
single string or number. A keyword whose value has the wrong shape counts as
absent.
-/

namespace TreeSchema

namespace Members

variable (node : Members) (keyword : String)

def string? : Option String := (node.lookup keyword).bind Value.asString?
def bool? : Option Bool := (node.lookup keyword).bind Value.asBool?
def number? : Option Number := (node.lookup keyword).bind Value.asNumber?
def items? : Option (List Value) := (node.lookup keyword).bind Value.asItems?
def members? : Option Members := (node.lookup keyword).bind Value.asMembers?

def count? : Option Nat := (node.number? keyword).bind Number.asCount

end Members

namespace Fault

def when (applies : Bool) (fault : Fault) : List Fault := if applies then [fault] else []

end Fault

-- -----------------------------------------------------------------------------
-- Strings

/-- A string is as long as its number of characters, and a pattern may match
anywhere in it. -/
def stringFaults (s : String) (node : Members) : List Fault :=
  let length := s.length
  (node.count? "minLength").elim [] (fun limit =>
    Fault.when (length < limit) (.stringTooShort length limit)) ++
  (node.count? "maxLength").elim [] (fun limit =>
    Fault.when (limit < length) (.stringTooLong length limit)) ++
  (node.string? "pattern").elim [] (fun source =>
    match Pattern.ofString? source with
    | some pattern => Fault.when (!pattern.matchesText s) (.patternMismatch source)
    | none => [.invalidPattern source])

-- -----------------------------------------------------------------------------
-- Numbers

/-- A bound is strict when the keyword beside it is `true`. -/
def minimumFaults (n : Number) (node : Members) : List Fault :=
  (node.number? "minimum").elim [] fun limit =>
    match n.compare limit with
    | some .lt => [.belowMinimum n limit]
    | some .eq =>
      Fault.when (node.bool? "exclusiveMinimum" == some true) (.atOrBelowExclusiveMinimum n limit)
    | _ => []

def maximumFaults (n : Number) (node : Members) : List Fault :=
  (node.number? "maximum").elim [] fun limit =>
    match n.compare limit with
    | some .gt => [.aboveMaximum n limit]
    | some .eq =>
      Fault.when (node.bool? "exclusiveMaximum" == some true) (.atOrAboveExclusiveMaximum n limit)
    | _ => []

/-- A numeric exclusive bound is strict by itself and applies beside the
inclusive one. -/
def exclusiveFaults (n : Number) (node : Members) : List Fault :=
  (node.number? "exclusiveMinimum").elim [] (fun limit =>
    Fault.when (n.compare limit == some .lt || n.compare limit == some .eq)
      (.atOrBelowExclusiveMinimum n limit)) ++
  (node.number? "exclusiveMaximum").elim [] (fun limit =>
    Fault.when (n.compare limit == some .gt || n.compare limit == some .eq)
      (.atOrAboveExclusiveMaximum n limit))

/-- A divisor that is not positive is ignored. -/
def multipleFaults (n : Number) (node : Members) : List Fault :=
  (node.number? "multipleOf").elim [] fun divisor =>
    Fault.when (divisor.isPositive && !n.isMultipleOf divisor) (.notMultipleOf n divisor)

def numberFaults (n : Number) (node : Members) : List Fault :=
  minimumFaults n node ++ maximumFaults n node ++ exclusiveFaults n node ++ multipleFaults n node

end TreeSchema
