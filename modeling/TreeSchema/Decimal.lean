import TreeSchema.Binary64

/-!
# Decimal numerals

Reading a decimal numeral as the nearest binary64 number, and writing a
binary64 number with the fewest digits that read back as the same number.
Where positional notation ends and how an exponent is written belongs to the
format that prints, so it is a `Decimal.Style`.
-/

namespace TreeSchema

-- Powers are the core ones, whatever else is in scope.
attribute [local instance (high)] instPowNat

/-- The numeral `± digits * 10 ^ exponent`. -/
structure Decimal where
  negative : Bool
  digits : Nat
  exponent : Int
  deriving DecidableEq

namespace Decimal

def digitCount (n : Nat) : Nat := (Nat.toDigits 10 n).length

/-- Powers of ten past this one are out of range for every nonzero numeral. -/
def greatestPower : Int := 400

/-- The binary64 number nearest to the numeral. `none` when it is out of range. -/
def toBinary64 (d : Decimal) : Option Binary64 :=
  let leading := d.exponent + (digitCount d.digits : Nat)
  if d.digits = 0 then some (.zero d.negative)
  else if leading > greatestPower then none
  else if leading < -greatestPower then some (.zero d.negative)
  else if d.exponent ≥ 0 then Binary64.ofRatio d.negative (d.digits * 10 ^ d.exponent.toNat) 1
  else Binary64.ofRatio d.negative d.digits (10 ^ (-d.exponent).toNat)

-- -----------------------------------------------------------------------------
-- Shortest digits

/-- A binary64 magnitude with the numbers that round to it, all counted in
quarter units. -/
structure RoundingInterval where
  centre : Nat
  below : Nat
  above : Nat
  /-- Whether the ends round to the centre too. -/
  closed : Bool

def RoundingInterval.of (x : Binary64) : RoundingInterval where
  centre := 4 * x.magnitude
  below := if x.significand = 2 ^ (52 : Nat) ∧ 0 < x.scale then 2 ^ x.scale else 2 * 2 ^ x.scale
  above := 2 * 2 ^ x.scale
  closed := x.significand % 2 = 0

def quartersPerOne : Nat := 4 * Binary64.unitsPerOne

/-- A multiple of a power of ten, `count * 10 ^ power`, compared with a number
of quarter units by cross multiplication: the pair of the two sides, numeral
first. -/
def sides (count : Nat) (power : Int) (quarters : Nat) : Nat × Nat :=
  if power ≥ 0 then (count * 10 ^ power.toNat * quartersPerOne, quarters)
  else (count * quartersPerOne, quarters * 10 ^ (-power).toNat)

def RoundingInterval.contains (r : RoundingInterval) (count : Nat) (power : Int) : Bool :=
  let (numeral, low) := sides count power (r.centre - r.below)
  let (_, high) := sides count power (r.centre + r.above)
  if r.closed then low ≤ numeral && numeral ≤ high else low < numeral && numeral < high

/-- The exponent of the leading digit of a positive number of quarter units. -/
def leadingExponent (quarters : Nat) : Int :=
  if quarters ≥ quartersPerOne then digitCount (quarters / quartersPerOne) - 1
  else -(digitCount ((quartersPerOne + quarters - 1) / quarters - 1) : Nat)

/-- The multiple of `10 ^ power` that rounds to the centre and is nearest to
it, of two equally near ones the even one. -/
def RoundingInterval.nearestMultiple? (r : RoundingInterval) (power : Int) : Option Nat :=
  let (one, centre) := sides 1 power r.centre
  let low := centre / one
  let lowIn := r.contains low power
  let highIn := r.contains (low + 1) power
  let twice := 2 * (centre - low * one)
  match lowIn, highIn with
  | false, false => none
  | true, false => some low
  | false, true => some (low + 1)
  | true, true =>
    if twice < one ∨ (twice = one ∧ low % 2 = 0) then some low else some (low + 1)

/-- Tries the grids of `1, 2, …` digits in turn, `remaining` of them. -/
def RoundingInterval.search (r : RoundingInterval) (leading : Int) : Nat → Nat → Nat × Int
  | 0, _ => (0, 0)
  | remaining + 1, places =>
    let power := leading - places
    match r.nearestMultiple? power with
    | some count => (count, power)
    | none => r.search leading remaining (places + 1)

def trim : Nat → Nat × Int → Nat × Int
  | 0, d => d
  | limit + 1, (digits, exponent) =>
    if digits ≠ 0 ∧ digits % 10 = 0 then trim limit (digits / 10, exponent + 1)
    else (digits, exponent)

/-- The fewest digits that read back as `x`, and of those the nearest. Seventeen
digits always suffice. -/
def shortest (x : Binary64) : Decimal :=
  if x.magnitude = 0 then ⟨x.negative, 0, 0⟩
  else
    let interval := RoundingInterval.of x
    let (digits, exponent) :=
      trim 17 (interval.search (leadingExponent interval.centre) 17 0)
    ⟨x.negative, digits, exponent⟩

-- -----------------------------------------------------------------------------
-- Layout

/-- How a format writes a number that is not an integer literal. -/
structure Style where
  /-- Leading-digit exponents written in positional notation. -/
  leastPositional : Int
  greatestPositional : Int
  /-- Whether a nonnegative exponent carries a plus sign. -/
  plusSign : Bool

def zeros (n : Nat) : List Char := List.replicate n '0'

/-- Positional notation always shows a fraction; scientific notation has one
digit before the point and no trailing `.0`. -/
def layout (style : Style) (d : Decimal) : List Char :=
  let digits := Nat.toDigits 10 d.digits
  let leading : Int := if d.digits = 0 then 0 else d.exponent + digits.length - 1
  let sign := if d.negative then ['-'] else []
  if style.leastPositional ≤ leading ∧ leading ≤ style.greatestPositional then
    if d.exponent ≥ 0 then
      sign ++ digits ++ zeros d.exponent.toNat ++ ['.', '0']
    else if leading < 0 then
      sign ++ ['0', '.'] ++ zeros ((-leading).toNat - 1) ++ digits
    else
      let whole := leading.toNat + 1
      sign ++ digits.take whole ++ ['.'] ++ digits.drop whole
  else
    let fraction := match digits.drop 1 with
      | [] => []
      | rest => '.' :: rest
    let exponentSign := if leading < 0 then ['-'] else if style.plusSign then ['+'] else []
    sign ++ digits.take 1 ++ fraction ++ ['e'] ++ exponentSign ++ Nat.toDigits 10 leading.natAbs

def render (style : Style) (x : Binary64) : String :=
  String.ofList (layout style (shortest x))

end Decimal

end TreeSchema
