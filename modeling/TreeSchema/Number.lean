import TreeSchema.Decimal

/-!
# Numbers of the data model

A number remembers whether it was written as an integer. Two integers compare
exactly; as soon as one side is a double, both are compared as doubles.
-/

namespace TreeSchema

-- Powers are the core ones, whatever else is in scope.
attribute [local instance (high)] instPowNat

inductive Number where
  | integer (i : Int)
  | double (d : Binary64)
  deriving DecidableEq

namespace Number

/-- Integer literals outside this range are read as doubles. -/
def leastInteger : Int := -2 ^ (63 : Nat)
def greatestInteger : Int := 2 ^ (64 : Nat) - 1

/-- The nearest double. Integers in range have one. -/
def toBinary64 : Number → Option Binary64
  | .integer i => Binary64.ofInt i
  | .double d => some d

/-- Order by value. `none` only for an integer that has no double. -/
def compare : Number → Number → Option Ordering
  | .integer a, .integer b => some (Ord.compare a b)
  | a, b => do return Binary64.compare (← a.toBinary64) (← b.toBinary64)

def equal (a b : Number) : Bool := a.compare b == some .eq

def isPositive : Number → Bool
  | .integer i => 0 < i
  | .double d => d.isPositive

def isWhole : Number → Bool
  | .integer _ => true
  | .double d => d.isWhole

/-- How far a quotient may be from a whole number and still count as one:
the double nearest to `1e-9`, in units. -/
def multipleTolerance : Nat := ((Binary64.ofRatio false 1 (10 ^ (9 : Nat))).map (·.magnitude)).getD 0

/-- Whether `n` is a multiple of a positive `divisor`. Integers are divided
exactly; other quotients are rounded and may miss a whole number by less than
`multipleTolerance`. -/
def isMultipleOf : Number → Number → Bool
  | .integer n, .integer divisor => n % divisor = 0
  | n, divisor =>
    match n.toBinary64, divisor.toBinary64 with
    | some x, some y =>
      match x.div y with
      | some quotient => quotient.distanceToWhole < multipleTolerance
      | none => false
    | _, _ => false

/-- The greatest count; larger whole numbers are not counts, save `2 ^ 64`,
which stands for the greatest. -/
def greatestCount : Nat := 2 ^ (64 : Nat) - 1

/-- The count that a number states: a whole number from `0` to `2 ^ 64`. -/
def asCount : Number → Option Nat
  | .integer i => if 0 ≤ i then some i.toNat else none
  | .double d =>
    if 0 ≤ d.units ∧ d.isWhole ∧ d.floorMagnitude ≤ 2 ^ (64 : Nat) then
      some (min d.floorMagnitude greatestCount)
    else
      none

/-- Doubles in JSON text. -/
def jsonStyle : Decimal.Style := ⟨-5, 15, true⟩

def text : Number → String
  | .integer i => toString i
  | .double d => Decimal.render jsonStyle d

end Number

end TreeSchema
