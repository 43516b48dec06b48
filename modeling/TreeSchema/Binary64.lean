/-!
# Finite binary64 numbers

A finite IEEE 754 double is kept as an exact integer multiple of the least
positive subnormal, `2 ^ -1074`. Comparison, wholeness and distance to the
nearest whole number are then integer arithmetic, and rounding happens in one
place, `Binary64.round`: to nearest, ties to even. Infinities and NaN have no
value here; an operation that would produce one returns `none`.
-/

namespace TreeSchema

-- Powers are the core ones, whatever else is in scope.
attribute [local instance (high)] instPowNat

/-- The number `± significand * 2 ^ scale` units, one unit being `2 ^ -1074`.
`canonical` makes the representation of a nonzero number unique. -/
structure Binary64 where
  negative : Bool
  significand : Nat
  scale : Nat
  canonical : significand < 2 ^ (53 : Nat) ∧ scale ≤ 2045 ∧ (2 ^ (52 : Nat) ≤ significand ∨ scale = 0)
  deriving DecidableEq

namespace Binary64

/-- How many units make `1`. -/
def unitsPerOne : Nat := 2 ^ (1074 : Nat)

def magnitude (x : Binary64) : Nat := x.significand * 2 ^ x.scale

def units (x : Binary64) : Int := if x.negative then -x.magnitude else x.magnitude

def zero (negative : Bool) : Binary64 := ⟨negative, 0, 0, by decide⟩

/-- `num / den` to the nearest whole number, a half to the even neighbour. -/
def divHalfEven (num den : Nat) : Nat :=
  let quotient := num / den
  match compare (2 * (num % den)) den with
  | .lt => quotient
  | .gt => quotient + 1
  | .eq => if quotient % 2 = 0 then quotient else quotient + 1

/-- The number nearest to `num / den` units. `none` when it is out of range. -/
def round (negative : Bool) (num den : Nat) : Option Binary64 :=
  let scale := (num / den).log2 - 52
  let significand := divHalfEven num (den * 2 ^ scale)
  let (significand, scale) :=
    if significand = 2 ^ (53 : Nat) then (2 ^ (52 : Nat), scale + 1) else (significand, scale)
  if h : significand < 2 ^ (53 : Nat) ∧ scale ≤ 2045 ∧ (2 ^ (52 : Nat) ≤ significand ∨ scale = 0) then
    some ⟨negative, significand, scale, h⟩
  else
    none

/-- The number nearest to the fraction `num / den`. -/
def ofRatio (negative : Bool) (num den : Nat) : Option Binary64 :=
  round negative (num * unitsPerOne) den

def ofInt (i : Int) : Option Binary64 := ofRatio (i < 0) i.natAbs 1

/-- The rounded quotient. `none` on overflow and on division by zero. -/
def div (x y : Binary64) : Option Binary64 :=
  if y.magnitude = 0 then none
  else round (x.negative != y.negative) (x.magnitude * unitsPerOne) y.magnitude

/-- Numeric order; the two zeros are equal. -/
def compare (x y : Binary64) : Ordering := Ord.compare x.units y.units

def isWhole (x : Binary64) : Bool := x.magnitude % unitsPerOne = 0

def isPositive (x : Binary64) : Bool := 0 < x.units

def floorMagnitude (x : Binary64) : Nat := x.magnitude / unitsPerOne

/-- Units to the nearest whole number. -/
def distanceToWhole (x : Binary64) : Nat :=
  let part := x.magnitude % unitsPerOne
  min part (unitsPerOne - part)

end Binary64

end TreeSchema
