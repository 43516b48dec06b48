import TreeSchema.Pattern.Expr
import TreeSchema.Pattern.Matcher
import TreeSchema.Unicode.Property

/-!
# Flags and classes

Turns an expression into a matcher by applying the flags in force at each
place: what a dot, a line anchor, a letter or a named class means depends on
them. There is no matcher for an unknown property name, nor where a pattern that
is not Unicode-aware could match part of a character.
-/

namespace TreeSchema.Pattern

structure Mode where
  ignoreCase : Bool
  multiLine : Bool
  dotAll : Bool
  unicode : Bool
  crlf : Bool

namespace Mode

def initial : Mode where
  ignoreCase := false
  multiLine := false
  dotAll := false
  unicode := true
  crlf := false

def set (mode : Mode) : Flag × Bool → Mode
  | (.ignoreCase, on) => { mode with ignoreCase := on }
  | (.multiLine, on) => { mode with multiLine := on }
  | (.dotAll, on) => { mode with dotAll := on }
  | (.unicode, on) => { mode with unicode := on }
  | (.crlf, on) => { mode with crlf := on }
  | (.swapGreed, _) | (.ignoreSpace, _) => mode

def change (mode : Mode) (changes : FlagChanges) : Mode := changes.foldl set mode

-- -----------------------------------------------------------------------------
-- Sets

/-- The set with the case variants of its members, if case is ignored. -/
def fold (mode : Mode) (set : CharSet) : CharSet :=
  if !mode.ignoreCase then set
  else if mode.unicode then Unicode.caseClosure set
  else Unicode.asciiCaseClosure set

/-- Where patterns are not Unicode-aware, sets hold bytes, and a byte that is
not ASCII is only a part of a character. -/
def wholeCharacters (mode : Mode) (set : CharSet) : Option CharSet :=
  if mode.unicode || set.isAscii then some set else none

def negate (mode : Mode) (negated : Bool) (set : CharSet) : Option CharSet :=
  mode.wholeCharacters (if negated then set.complement else set)

def literal (mode : Mode) (c : Literal) : Option Char :=
  if !mode.unicode && c.asByte && 0x80 ≤ c.char.toNat then none else some c.char

def classLiteral (mode : Mode) (c : Literal) : Option Nat := do
  let c ← mode.literal c
  guard (mode.unicode || c.toNat < 0x80)
  return c.toNat

def asciiDigit : CharSet := .range 0x30 0x39

def asciiSpace : CharSet := (CharSet.range 0x09 0x0D).union (.range 0x20 0x20)

def asciiWord : CharSet :=
  .unions [asciiDigit, .range 0x41 0x5A, .range 0x5F 0x5F, .range 0x61 0x7A]

def word (mode : Mode) : CharSet := if mode.unicode then Unicode.word else asciiWord

def named (mode : Mode) (negated : Bool) : NamedClass → Option CharSet
  | .digit => mode.negate negated (if mode.unicode then Unicode.digit else asciiDigit)
  | .space => mode.negate negated (if mode.unicode then Unicode.space else asciiSpace)
  | .word => mode.negate negated mode.word
  | .property name => do
    guard mode.unicode
    mode.negate negated (mode.fold (← Unicode.propertyNamed? name))
  | .propertyValue name value => do
    guard mode.unicode
    mode.negate negated (mode.fold (← Unicode.valueNamed? name value))

def combine : ClassOp → CharSet → CharSet → CharSet
  | .inter => CharSet.inter
  | .diff => CharSet.diff
  | .symmDiff => CharSet.symmDiff

mutual
/-- The set of a class. Case is folded where brackets close and on both sides of
an operator. -/
def classSet (mode : Mode) : ClassExpr → Option CharSet
  | .literal c => (mode.classLiteral c).map fun c => .range c c
  | .range first last => do
    return .range (← mode.classLiteral first) (← mode.classLiteral last)
  | .ascii set negated => mode.negate negated (mode.fold set)
  | .named cls negated => mode.named negated cls
  | .bracket negated body => do mode.negate negated (mode.fold (← mode.classSet body))
  | .union members => mode.classUnion members
  | .combine op left right => do
    return combine op (mode.fold (← mode.classSet left)) (mode.fold (← mode.classSet right))

def classUnion (mode : Mode) : List ClassExpr → Option CharSet
  | [] => some .empty
  | member :: rest => do return (← mode.classSet member).union (← mode.classUnion rest)
end

/-- Line breaks are matched only on request. -/
def dot (mode : Mode) : Option CharSet := do
  guard mode.unicode
  let breaks :=
    if mode.dotAll then .empty
    else if mode.crlf then (CharSet.single '\n').union (.single '\r')
    else .single '\n'
  return breaks.complement

def anchor (mode : Mode) : Anchor → Test
  | .lineStart => if mode.multiLine then .lineStart mode.crlf else .textStart
  | .lineEnd => if mode.multiLine then .lineEnd mode.crlf else .textEnd
  | .textStart => .textStart
  | .textEnd => .textEnd
  | .wordBoundary => .wordBoundary mode.word
  | .notWordBoundary => .notWordBoundary mode.word
  | .wordStart => .wordStart mode.word
  | .wordEnd => .wordEnd mode.word
  | .wordStartHalf => .wordStartHalf mode.word
  | .wordEndHalf => .wordEndHalf mode.word

end Mode

-- -----------------------------------------------------------------------------
-- Expressions

mutual
/-- The matcher of an expression, and the flags in force after it. -/
def Expr.toMatcher (mode : Mode) : Expr → Option (Matcher CharSet Test × Mode)
  | .empty => some (.nothing, mode)
  | .setFlags changes => some (.nothing, mode.change changes)
  | .literal c => do return (.move (mode.fold (.single (← mode.literal c))), mode)
  | .dot => do return (.move (← mode.dot), mode)
  | .anchor a => some (.stay (mode.anchor a), mode)
  | .named cls negated => do return (.move (← mode.named negated cls), mode)
  | .bracket negated body => do
    return (.move (← mode.classSet (.bracket negated body)), mode)
  | .repetition least most body => do
    let (matcher, mode) ← body.toMatcher mode
    return (.repetition least most matcher, mode)
  | .group changes body => do
    let (matcher, _) ← body.toMatcher (mode.change changes)
    return (matcher, mode)
  | .alternation branches => do
    let (matchers, mode) ← Expr.toMatchers mode branches
    return (.choice matchers, mode)
  | .concat parts => do
    let (matchers, mode) ← Expr.toMatchers mode parts
    return (.sequence matchers, mode)

/-- Flags set in one part hold in the next. -/
def Expr.toMatchers (mode : Mode) :
    List Expr → Option (List (Matcher CharSet Test) × Mode)
  | [] => some ([], mode)
  | part :: rest => do
    let (matcher, mode) ← part.toMatcher mode
    let (matchers, mode) ← Expr.toMatchers mode rest
    return (matcher :: matchers, mode)
end

end TreeSchema.Pattern
