import TreeSchema.Value

/-!
# Reading JSON text

A strict reader of RFC 8259 text: no comments, no trailing commas, no byte
order mark. A number past the range of binary64 and a surrogate escape without
its other half are errors, and so are arrays and objects nested deeper than a
given limit. Of several members with one key the last is kept.

Every function takes the rest of the text and returns what it read with the
rest after it, or `none` when the text is not JSON.
-/

namespace TreeSchema.Json

def isSpace (c : Char) : Bool := c = ' ' || c = '\t' || c = '\n' || c = '\r'

def skipSpace (text : List Char) : List Char := text.dropWhile isSpace

def expect? : List Char → List Char → Option (List Char)
  | [], text => some text
  | c :: word, d :: text => if c = d then expect? word text else none
  | _ :: _, [] => none

/-- The value of a digit in base 10 or 16. -/
def digitValue? (base : Nat) (c : Char) : Option Nat :=
  let value :=
    if c.isDigit then some (c.toNat - '0'.toNat)
    else if 'a' ≤ c ∧ c ≤ 'f' then some (c.toNat - 'a'.toNat + 10)
    else if 'A' ≤ c ∧ c ≤ 'F' then some (c.toNat - 'A'.toNat + 10)
    else none
  value.filter (· < base)

def ofDigits? (base : Nat) (digits : List Char) : Option Nat :=
  digits.foldlM (fun value c => (digitValue? base c).map (base * value + ·)) 0

-- -----------------------------------------------------------------------------
-- Numbers

structure Numeral where
  negative : Bool
  whole : List Char
  fraction : Option (List Char)
  exponent : Option Int

namespace Numeral

/-- The integer that the numeral writes, unless it is a negative zero or out
of range. -/
def integer? (n : Numeral) : Option Int := do
  guard (n.fraction.isNone && n.exponent.isNone)
  let magnitude ← ofDigits? 10 n.whole
  guard !(n.negative && magnitude == 0)
  let i : Int := if n.negative then -magnitude else magnitude
  guard (Number.leastInteger ≤ i && i ≤ Number.greatestInteger)
  return i

def decimal? (n : Numeral) : Option Decimal := do
  let fraction := n.fraction.getD []
  let digits ← ofDigits? 10 (n.whole ++ fraction)
  return ⟨n.negative, digits, n.exponent.getD 0 - fraction.length⟩

def number? (n : Numeral) : Option Number :=
  match n.integer? with
  | some i => some (.integer i)
  | none => (n.decimal?.bind Decimal.toBinary64).map .double

end Numeral

def readDigits (text : List Char) : List Char × List Char := text.span Char.isDigit

def readPart (text : List Char) : Option (List Char × List Char) :=
  match readDigits text with
  | ([], _) => none
  | part => some part

def readSign : List Char → Bool × List Char
  | '-' :: text => (true, text)
  | '+' :: text => (false, text)
  | text => (false, text)

def readFraction : List Char → Option (Option (List Char) × List Char)
  | '.' :: text => (readPart text).map fun (digits, rest) => (some digits, rest)
  | text => some (none, text)

def readExponent : List Char → Option (Option Int × List Char)
  | c :: text =>
    if c = 'e' ∨ c = 'E' then do
      let (negative, text) := readSign text
      let (digits, rest) ← readPart text
      let magnitude ← ofDigits? 10 digits
      return (some (if negative then -magnitude else magnitude), rest)
    else
      some (none, c :: text)
  | [] => some (none, [])

/-- A whole part of several digits does not start with `0`. -/
def readNumeral (text : List Char) : Option (Numeral × List Char) := do
  let (negative, text) := match text with
    | '-' :: rest => (true, rest)
    | text => (false, text)
  let (whole, text) ← match text with
    | '0' :: rest => some (['0'], rest)
    | text => readPart text
  let (fraction, text) ← readFraction text
  let (exponent, text) ← readExponent text
  return (⟨negative, whole, fraction, exponent⟩, text)

-- -----------------------------------------------------------------------------
-- Strings

/-- The characters of a string, given its code points and its escaped code
units: a high surrogate must be followed by a low one, and a low one must
follow. -/
def ofCodeUnits : List Nat → Option (List Char)
  | [] => some []
  | unit :: rest =>
    if 0xD800 ≤ unit ∧ unit < 0xDC00 then
      match rest with
      | low :: rest =>
        if 0xDC00 ≤ low ∧ low < 0xE000 then
          let point := 0x10000 + (unit - 0xD800) * 0x400 + (low - 0xDC00)
          (ofCodeUnits rest).map (Char.ofNat point :: ·)
        else none
      | [] => none
    else if 0xDC00 ≤ unit ∧ unit < 0xE000 then none
    else (ofCodeUnits rest).map (Char.ofNat unit :: ·)

def escaped? : Char → Option Char
  | '"' => some '"'
  | '\\' => some '\\'
  | '/' => some '/'
  | 'b' => some '\x08'
  | 'f' => some '\x0c'
  | 'n' => some '\n'
  | 'r' => some '\r'
  | 't' => some '\t'
  | _ => none

/-- Code points and code units up to the closing quote. -/
def readCodeUnits : List Char → Option (List Nat × List Char)
  | '"' :: rest => some ([], rest)
  | '\\' :: 'u' :: a :: b :: c :: d :: rest => do
    let unit ← ofDigits? 16 [a, b, c, d]
    let (units, rest) ← readCodeUnits rest
    return (unit :: units, rest)
  | '\\' :: letter :: rest => do
    let c ← escaped? letter
    let (units, rest) ← readCodeUnits rest
    return (c.toNat :: units, rest)
  | c :: rest =>
    if c.toNat < 0x20 then none
    else (readCodeUnits rest).map fun (units, rest) => (c.toNat :: units, rest)
  | [] => none

def readString (text : List Char) : Option (String × List Char) := do
  let (units, rest) ← readCodeUnits text
  let characters ← ofCodeUnits units
  return (String.ofList characters, rest)

-- -----------------------------------------------------------------------------
-- Values

mutual
/-- A value with at most `depth` arrays and objects inside one another. Of two
nested calls one reads a character, so `fuel` need not exceed twice the length
of the text. -/
def readValue : Nat → Nat → List Char → Option (Value × List Char)
  | 0, _, _ => none
  | fuel + 1, depth, text =>
    match skipSpace text, depth with
    | '[' :: _, 0 | '\x7b' :: _, 0 => none
    | '[' :: rest, depth + 1 =>
      match skipSpace rest with
      | ']' :: rest => some (.array [], rest)
      | rest => (readItems fuel depth rest).map fun (items, rest) => (.array items, rest)
    | '\x7b' :: rest, depth + 1 =>
      match skipSpace rest with
      | '\x7d' :: rest => some (.object [], rest)
      | rest => (readMembers fuel depth rest).map fun (pairs, rest) => (.ofPairs pairs, rest)
    | '"' :: rest, _ => (readString rest).map fun (s, rest) => (.string s, rest)
    | 'n' :: rest, _ => (expect? ['u', 'l', 'l'] rest).map fun rest => (.null, rest)
    | 't' :: rest, _ => (expect? ['r', 'u', 'e'] rest).map fun rest => (.bool true, rest)
    | 'f' :: rest, _ => (expect? ['a', 'l', 's', 'e'] rest).map fun rest => (.bool false, rest)
    | text, _ => do
      let (numeral, rest) ← readNumeral text
      let n ← numeral.number?
      return (.number n, rest)

/-- The items of an array that is not empty, and the bracket that ends it. -/
def readItems : Nat → Nat → List Char → Option (List Value × List Char)
  | 0, _, _ => none
  | fuel + 1, depth, text => do
    let (item, rest) ← readValue fuel depth text
    match skipSpace rest with
    | ']' :: rest => return ([item], rest)
    | ',' :: rest => (readItems fuel depth rest).map fun (items, rest) => (item :: items, rest)
    | _ => none

/-- The members of an object that is not empty, and the brace that ends it. -/
def readMembers : Nat → Nat → List Char → Option (List (String × Value) × List Char)
  | 0, _, _ => none
  | fuel + 1, depth, text => do
    let ('"' :: rest) := skipSpace text | none
    let (key, rest) ← readString rest
    let (':' :: rest) := skipSpace rest | none
    let (child, rest) ← readValue fuel depth rest
    match skipSpace rest with
    | '\x7d' :: rest => return ([(key, child)], rest)
    | ',' :: rest =>
      (readMembers fuel depth rest).map fun (pairs, rest) => ((key, child) :: pairs, rest)
    | _ => none
end

/-- The value that a text holds, with nothing but space around it. -/
def read (depth : Nat) (text : String) : Option Value := do
  let characters := text.toList
  let (value, rest) ← readValue (2 * characters.length + 1) depth characters
  guard (skipSpace rest).isEmpty
  return value

end TreeSchema.Json
