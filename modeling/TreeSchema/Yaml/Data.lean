import TreeSchema.Number
import TreeSchema.Text
import TreeSchema.Unicode.Property

/-!
# YAML data

The values that a YAML document can hold. Compared with the JSON data model,
numbers may be infinite or undefined, keys may be any value, and values may
carry a tag.
-/

namespace TreeSchema.Yaml

-- Powers are the core ones, whatever else is in scope.
attribute [local instance (high)] instPowNat

inductive Numeric where
  | finite (n : Number)
  | infinite (negative : Bool)
  | undefined
  deriving DecidableEq

inductive Data where
  | null
  | bool (b : Bool)
  | number (n : Numeric)
  | string (s : String)
  | sequence (items : List Data)
  | mapping (entries : List (Data × Data))
  | tagged (tag : String) (content : Data)

namespace Numeric

/-- Doubles in YAML text. -/
def style : Decimal.Style := ⟨-5, 15, false⟩

def text : Numeric → String
  | .finite (.integer i) => toString i
  | .finite (.double d) => Decimal.render style d
  | .infinite negative => if negative then "-.inf" else ".inf"
  | .undefined => ".nan"

/-- The integer, if a signed word of 64 bits holds it. -/
def asSigned? : Numeric → Option Int
  | .finite (.integer i) => if -2 ^ (63 : Nat) ≤ i ∧ i < 2 ^ (63 : Nat) then some i else none
  | _ => none

/-- The integer, if an unsigned word of 64 bits holds it. -/
def asUnsigned? : Numeric → Option Int
  | .finite (.integer i) => if 0 ≤ i ∧ i < 2 ^ (64 : Nat) then some i else none
  | _ => none

def asDouble? : Numeric → Option Binary64
  | .finite n => n.toBinary64
  | .infinite _ | .undefined => none

/-- Equality of keys: an integer never equals a double, and the two zeros are
one. -/
def sameKey : Numeric → Numeric → Bool
  | .finite (.integer a), .finite (.integer b) => a = b
  | .finite (.double a), .finite (.double b) => a.compare b == .eq
  | .infinite a, .infinite b => a = b
  | .undefined, .undefined => true
  | _, _ => false

end Numeric

namespace Data

mutual
/-- Equality of keys. The order of entries does not matter. -/
def sameKey : Data → Data → Bool
  | .null, .null => true
  | .bool a, .bool b => a = b
  | .number a, .number b => a.sameKey b
  | .string a, .string b => a = b
  | .sequence xs, .sequence ys => sameItems xs ys
  | .mapping xs, .mapping ys => xs.length = ys.length && sameEntries xs ys
  | .tagged s x, .tagged t y => s = t && sameKey x y
  | _, _ => false

def sameItems : List Data → List Data → Bool
  | [], [] => true
  | x :: xs, y :: ys => sameKey x y && sameItems xs ys
  | _, _ => false

def sameEntries : List (Data × Data) → List (Data × Data) → Bool
  | [], _ => true
  | (key, x) :: rest, ys => hasEntry key x ys && sameEntries rest ys

/-- Whether there is an entry with an equal key and an equal value. -/
def hasEntry (key x : Data) : List (Data × Data) → Bool
  | [] => false
  | (other, y) :: rest => (sameKey key other && sameKey x y) || hasEntry key x rest
end

-- -----------------------------------------------------------------------------
-- Descriptions

/-- A character inside a quoted string; one that cannot be shown is given by its
code point. -/
def escapeChar (c : Char) : List Char :=
  match c with
  | '\x00' => ['\\', '0']
  | '\t' => ['\\', 't']
  | '\n' => ['\\', 'n']
  | '\r' => ['\\', 'r']
  | '"' => ['\\', '"']
  | '\\' => ['\\', '\\']
  | c =>
    if Unicode.showable.contains c then [c]
    else ['\\', 'u', '\x7b'] ++ Nat.toDigits 16 c.toNat ++ ['\x7d']

def quote (s : String) : String := String.ofList ('"' :: s.toList.flatMap escapeChar ++ ['"'])

mutual
def describe : Data → String
  | .null => "Null"
  | .bool b => s!"Bool({b})"
  | .number n => s!"Number({n.text})"
  | .string s => s!"String({quote s})"
  | .sequence items => "Sequence [" ++ Text.join ", " (describeItems items) ++ "]"
  | .mapping entries =>
    "Mapping \x7b" ++ Text.join ", " (describeEntries entries) ++ "\x7d"
  | .tagged tag content =>
    "TaggedValue \x7b tag: !" ++ tag ++ ", value: " ++ content.describe ++ " \x7d"

def describeItems : List Data → List String
  | [] => []
  | item :: rest => item.describe :: describeItems rest

/-- Scalar keys are shown without their constructor. -/
def describeEntries : List (Data × Data) → List String
  | [] => []
  | (.bool b, x) :: rest => s!"{b}: {x.describe}" :: describeEntries rest
  | (.number n, x) :: rest => s!"{n.text}: {x.describe}" :: describeEntries rest
  | (.string s, x) :: rest => s!"{quote s}: {x.describe}" :: describeEntries rest
  | (key, x) :: rest => s!"{key.describe}: {x.describe}" :: describeEntries rest
end

end Data

end TreeSchema.Yaml
