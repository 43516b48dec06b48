import TreeSchema.Yaml.Data
import TreeSchema.Yaml.Token

/-!
# Scalars by their text

A plain scalar is null, a truth value, a number or a string, whichever its text
fits first. Tags for these types force one of them; any other tag of the core
vocabulary leaves the text a string.
-/

namespace TreeSchema.Yaml

-- Powers are the core ones, whatever else is in scope.
attribute [local instance (high)] instPowNat

-- -----------------------------------------------------------------------------
-- Words

def isNull (text : String) : Bool := ["null", "Null", "NULL", "~"].contains text

def truth? (text : String) : Option Bool :=
  if ["true", "True", "TRUE"].contains text then some true
  else if ["false", "False", "FALSE"].contains text then some false
  else none

-- -----------------------------------------------------------------------------
-- Integers

/-- The number that digits write in a base; there must be some. -/
def ofDigits? (base : Nat) (digits : List Char) : Option Nat := do
  guard !digits.isEmpty
  digits.foldlM (fun value c => do
    let digit :=
      if c.isDigit then c.toNat - 0x30
      else if c.isAlpha then c.toLower.toNat - 0x61 + 10
      else base
    guard (digit < base)
    return base * value + digit) 0

def base? : List Char → Option (Nat × List Char)
  | '0' :: 'x' :: digits => some (16, digits)
  | '0' :: 'o' :: digits => some (8, digits)
  | '0' :: 'b' :: digits => some (2, digits)
  | _ => none

/-- A number without a sign, in a base of its own or in decimal digits. -/
def magnitude? (text : List Char) : Option Nat :=
  ((base? text).bind fun (base, digits) => ofDigits? base digits).or (ofDigits? 10 text)

def withoutSign : List Char → List Char
  | '+' :: rest => rest
  | '-' :: rest => rest
  | text => text

/-- Several digits of which the first is a zero are text, not a number. -/
def isPaddedDigits (text : List Char) : Bool :=
  let digits := withoutSign text
  1 < digits.length && digits.head? == some '0' && digits.all Char.isDigit

def integer? (text : List Char) : Option Int :=
  if isPaddedDigits text then none
  else match text with
    | '-' :: rest => (magnitude? rest).map fun n => -n
    | '+' :: rest => (magnitude? rest).map fun n => n
    | rest => (magnitude? rest).map fun n => n

/-- How an integer is read: as itself where the data model holds it, not at all
where only 128 bits do, and as a double beyond. -/
inductive IntegerRange where
  | held
  | refused
  | double
  deriving DecidableEq

def rangeOf (i : Int) : IntegerRange :=
  if Number.leastInteger ≤ i ∧ i ≤ Number.greatestInteger then .held
  else if -2 ^ (127 : Nat) ≤ i ∧ i < 2 ^ (128 : Nat) then .refused
  else .double

-- -----------------------------------------------------------------------------
-- Floating-point numbers

/-- Digits, with a point before, between or behind them, and an exponent. -/
def decimal? (negative : Bool) (text : List Char) : Option Decimal := do
  let (whole, rest) := text.span Char.isDigit
  let (fraction, rest) := match rest with
    | '.' :: rest => rest.span Char.isDigit
    | rest => ([], rest)
  let digits ← ofDigits? 10 (whole ++ fraction)
  let exponent ← match rest with
    | [] => some 0
    | e :: rest => do
      guard (e = 'e' || e = 'E')
      let magnitude ← ofDigits? 10 (withoutSign rest)
      pure (if rest.head? == some '-' then -(magnitude : Int) else magnitude)
  return ⟨negative, digits, exponent - fraction.length⟩

/-- A double. One that is out of range is none. -/
def double? (text : List Char) : Option Numeric :=
  match String.ofList text with
  | ".inf" | ".Inf" | ".INF" | "+.inf" | "+.Inf" | "+.INF" => some (.infinite false)
  | "-.inf" | "-.Inf" | "-.INF" => some (.infinite true)
  | ".nan" | ".NaN" | ".NAN" => some .undefined
  | _ =>
    ((decimal? (text.head? == some '-') (withoutSign text)).bind Decimal.toBinary64).map
      fun d => .finite (.double d)

-- -----------------------------------------------------------------------------
-- Scalars

/-- The value of an untagged plain scalar. Integers that only 128 bits hold have
none. -/
def plainData? (text : String) : Option Data :=
  if text = "" || isNull text then some .null
  else match truth? text with
    | some b => some (.bool b)
    | none =>
      let characters := text.toList
      match (integer? characters).map fun i => (i, rangeOf i) with
      | some (i, .held) => some (.number (.finite (.integer i)))
      | some (_, .refused) => none
      | _ =>
        if isPaddedDigits characters then some (.string text)
        else some (((double? characters).map Data.number).getD (.string text))

def coreTag (name : String) : String := "tag:yaml.org,2002:" ++ name

/-- The value of a scalar whose tag does not stay with it. -/
def scalarData? (tag : Option String) (text : String) (style : Style) : Option Data :=
  let untagged := if style = .plain then plainData? text else some (.string text)
  match tag with
  | none => untagged
  | some tag =>
    if tag = coreTag "bool" then (truth? text).map .bool
    else if tag = coreTag "int" then
      (integer? text.toList).bind fun i =>
        if rangeOf i = .held then some (.number (.finite (.integer i))) else none
    else if tag = coreTag "float" then (double? text.toList).map .number
    else if tag = coreTag "null" then if isNull text then some .null else none
    else some (.string text)

/-- A tag without its leading `!`, unless that is all there is. -/
def withoutMark : List Char → List Char
  | '!' :: c :: name => c :: name
  | tag => tag

/-- The name of a tag that stays with its value: a local one. A second mark does
not belong to the name either. -/
def localTag? (tag : Option String) : Option String := do
  let characters := (← tag).toList
  guard (characters.head? == some '!')
  return String.ofList (withoutMark (withoutMark characters))

end TreeSchema.Yaml
