import TreeSchema.Pattern.Expr
import TreeSchema.Unicode.Property

/-!
# Reading patterns

Reads a pattern's text as an expression, or fails when the text is not a
pattern. A backslash makes any ASCII character that is not a letter, a digit or
an angle bracket stand for itself; there are no backreferences and no
look-around. Under the flag `x`, space and comments between the parts are
skipped.
-/

namespace TreeSchema.Pattern

-- Powers are the core ones, whatever else is in scope.
attribute [local instance (high)] instPowNat

/-- The state of reading: the text left, whether space is skipped, and the
group names in use. -/
structure Cursor where
  rest : List Char
  ignoreSpace : Bool
  names : List String

abbrev Read := StateT Cursor Option

namespace Read

def isSpace (c : Char) : Bool := Unicode.whiteSpace.contains c

def dropSpace (inComment : Bool) : List Char → List Char
  | [] => []
  | c :: rest =>
    if inComment then dropSpace (c ≠ '\n') rest
    else if isSpace c then dropSpace false rest
    else if c = '#' then dropSpace true rest
    else c :: rest

-- -----------------------------------------------------------------------------
-- Single characters

def peek : Read (Option Char) := do return (← get).rest.head?

def bump : Read Unit := modify fun s => { s with rest := s.rest.drop 1 }

def skipSpace : Read Unit := modify fun s =>
  if s.ignoreSpace then { s with rest := dropSpace false s.rest } else s

def bumpSpace : Read Unit := do bump; skipSpace

def current : Read Char := do
  let some c ← peek | failure
  return c

def take : Read Char := do
  let c ← current
  bump
  return c

def expect (c : Char) : Read Unit := do guard ((← take) = c)

def accept (word : String) : Read Bool := do
  let s ← get
  if word.toList.isPrefixOf s.rest then
    set { s with rest := s.rest.drop word.length }
    return true
  else
    return false

-- -----------------------------------------------------------------------------
-- Repetition

/-- Repeats a reader until it has nothing more, at most `fuel` times. -/
def many {α : Type} (step : Read (Option α)) : Nat → Read (List α)
  | 0 => failure
  | fuel + 1 => do
    match ← step with
    | some a => return a :: (← many step fuel)
    | none => return []

/-- Takes characters while a condition holds, with the space after each. -/
def takeWhile (condition : Char → Bool) : Read (List Char) := do
  let fuel := (← get).rest.length + 1
  many (do
    match ← peek with
    | some c => if condition c then do bumpSpace; return some c else return none
    | none => return none) fuel

-- -----------------------------------------------------------------------------
-- Numbers

/-- The number that digits write in a base, below a limit. -/
def number (base limit : Nat) (digits : List Char) : Read Nat := do
  guard !digits.isEmpty
  let value := digits.foldl (fun value c =>
    let digit := if c.isDigit then c.toNat - 0x30 else c.toLower.toNat - 0x61 + 10
    base * value + digit) 0
  guard (value < limit)
  return value

/-- A count in decimal digits, with space around it. -/
def decimal : Read Nat := do
  modify fun s => { s with rest := s.rest.dropWhile isSpace }
  let digits ← takeWhile Char.isDigit
  let _ ← takeWhile isSpace
  number 10 (2 ^ (32 : Nat)) digits

def isHex (c : Char) : Bool := c.isDigit || ('a' ≤ c && c ≤ 'f') || ('A' ≤ c && c ≤ 'F')

/-- A character by its code point in hexadecimal digits. -/
def codePoint (digits : List Char) : Read Char := do
  guard (digits.all isHex)
  let value ← number 16 (2 ^ (32 : Nat)) digits
  guard (value.isValidChar)
  return Char.ofNat value

/-- A code point of a fixed number of digits, or in braces. -/
def hex (digitCount : Nat) : Read Literal := do
  bumpSpace
  if (← current) = '\x7b' then
    bumpSpace
    let digits ← takeWhile (· ≠ '\x7d')
    expect '\x7d'
    skipSpace
    return ⟨← codePoint digits, false⟩
  else
    let digits ← (List.range digitCount).mapM fun _ => do
      let c ← current
      bumpSpace
      return c
    return ⟨← codePoint digits, digitCount = 2⟩

-- -----------------------------------------------------------------------------
-- Escapes

/-- Splits a text around the first occurrence of a separator. -/
def splitAround (separator : List Char) : List Char → Option (List Char × List Char)
  | [] => none
  | c :: rest =>
    if separator.isPrefixOf (c :: rest) then some ([], (c :: rest).drop separator.length)
    else (splitAround separator rest).map fun (before, after) => (c :: before, after)

/-- The class that the text between the braces of a property names. -/
def propertyClass (text : List Char) : NamedClass :=
  let split := (splitAround ['!', '='] text).or
    ((splitAround [':'] text).or (splitAround ['='] text))
  match split with
  | some (name, value) => .propertyValue (String.ofList name) (String.ofList value)
  | none => .property (String.ofList text)

def property : Read NamedClass := do
  bumpSpace
  if (← current) = '\x7b' then
    bumpSpace
    let text ← takeWhile (· ≠ '\x7d')
    expect '\x7d'
    return propertyClass text
  else
    let c ← current
    guard (c ≠ '\\')
    bumpSpace
    return .property (String.singleton c)

/-- The anchor written in braces after `\b`. Braces that do not start with a
letter or `-` are left alone. -/
def wordAnchor : Read Anchor := do
  let start ← get
  if (← peek) ≠ some '\x7b' then return .wordBoundary
  let isNameChar (c : Char) : Bool := c.isAlpha || c = '-'
  bumpSpace
  if !isNameChar (← current) then
    set start
    return .wordBoundary
  let name ← takeWhile isNameChar
  expect '\x7d'
  match String.ofList name with
  | "start" => return .wordStart
  | "end" => return .wordEnd
  | "start-half" => return .wordStartHalf
  | "end-half" => return .wordEndHalf
  | _ => failure

def isMeta (c : Char) : Bool := "\\.+*?()|[]\x7b\x7d^$#&-~".toList.contains c

def isEscapable (c : Char) : Bool :=
  isMeta c || (c.toNat < 0x80 && !c.isAlphanum && c ≠ '<' && c ≠ '>')

/-- An escape, after which a literal, an anchor or a class stands. -/
def escape : Read Expr := do
  expect '\\'
  let c ← current
  match c with
  | 'x' => return .literal (← hex 2)
  | 'u' => return .literal (← hex 4)
  | 'U' => return .literal (← hex 8)
  | 'p' => return .named (← property) false
  | 'P' => return .named (← property) true
  | _ =>
    bump
    match c with
    | 'd' => return .named .digit false
    | 'D' => return .named .digit true
    | 's' => return .named .space false
    | 'S' => return .named .space true
    | 'w' => return .named .word false
    | 'W' => return .named .word true
    | 'a' => return .literal ⟨'\x07', false⟩
    | 'f' => return .literal ⟨'\x0c', false⟩
    | 't' => return .literal ⟨'\t', false⟩
    | 'n' => return .literal ⟨'\n', false⟩
    | 'r' => return .literal ⟨'\r', false⟩
    | 'v' => return .literal ⟨'\x0b', false⟩
    | 'A' => return .anchor .textStart
    | 'z' => return .anchor .textEnd
    | 'b' => return .anchor (← wordAnchor)
    | 'B' => return .anchor .notWordBoundary
    | '<' => return .anchor .wordStart
    | '>' => return .anchor .wordEnd
    | c =>
      guard (isEscapable c)
      return .literal ⟨c, false⟩

-- -----------------------------------------------------------------------------
-- Classes

/-- The set of a class name between `[:` and `:]`. -/
def asciiClass? (name : String) : Option CharSet :=
  let letters := (CharSet.range 0x41 0x5A).union (.range 0x61 0x7A)
  let digits := CharSet.range 0x30 0x39
  match name with
  | "alnum" => some (letters.union digits)
  | "alpha" => some letters
  | "ascii" => some (.range 0 0x7F)
  | "blank" => some ((CharSet.range 0x09 0x09).union (.range 0x20 0x20))
  | "cntrl" => some ((CharSet.range 0 0x1F).union (.range 0x7F 0x7F))
  | "digit" => some digits
  | "graph" => some (.range 0x21 0x7E)
  | "lower" => some (.range 0x61 0x7A)
  | "print" => some (.range 0x20 0x7E)
  | "punct" => some ((CharSet.range 0x21 0x7E).diff (letters.union digits))
  | "space" => some ((CharSet.range 0x09 0x0D).union (.range 0x20 0x20))
  | "upper" => some (.range 0x41 0x5A)
  | "word" => some (.unions [letters, digits, .range 0x5F 0x5F])
  | "xdigit" => some (.unions [digits, .range 0x41 0x46, .range 0x61 0x66])
  | _ => none

/-- An ASCII class such as `[:alpha:]`. Text that is not one is left alone. -/
def asciiClass : Read (Option ClassExpr) := do
  let s ← get
  let inner := s.rest.drop 2
  let (negated, inner) := match inner with
    | '^' :: rest => (true, rest)
    | rest => (false, rest)
  let name := inner.takeWhile (· ≠ ':')
  let after := inner.drop name.length
  match asciiClass? (String.ofList name) with
  | some cls =>
    if ['[', ':'].isPrefixOf s.rest && [':', ']'].isPrefixOf after then
      set { s with rest := after.drop 2 }
      return some (.ascii cls negated)
    else
      return none
  | none => return none

/-- A member of a class, not yet known to be the start of a range. -/
def classAtom : Read Expr := do
  if (← current) = '\\' then escape else return .literal ⟨← take, false⟩

/-- The character after the next one and the space between. -/
def peekSpace : Read (Option Char) := do
  let s ← get
  let after := s.rest.drop 1
  if !s.ignoreSpace then return after.head?
  match after.dropWhile isSpace with
  | '#' :: rest => return (rest.dropWhile isSpace).head?
  | rest => return rest.head?

/-- A single member or a range. A hyphen before `]` or another hyphen does not
make a range. -/
def classRange : Read ClassExpr := do
  let first ← classAtom
  skipSpace
  let c ← current
  let next ← peekSpace
  if c ≠ '-' ∨ next = some ']' ∨ next = some '-' then
    match first with
    | .literal c => return .literal c
    | .named cls negated => return .named cls negated
    | _ => failure
  else
    bumpSpace
    match first, ← classAtom with
    | .literal first, .literal last =>
      guard (first.char ≤ last.char)
      return .range first last
    | _, _ => failure

/-- The hyphens, or the bracket, that stand for themselves at the start of a
class. -/
def classStart : Read (List ClassExpr) := do
  let hyphens ← takeWhile (· = '-')
  let hyphens := hyphens.map fun c => ClassExpr.literal ⟨c, false⟩
  if hyphens.isEmpty ∧ (← current) = ']' then
    bumpSpace
    return [.literal ⟨']', false⟩]
  else
    return hyphens

/-- One member stands for itself. -/
def unionOf : List ClassExpr → ClassExpr
  | [only] => only
  | members => .union members

/-- The operands before an operator, joined from the left. -/
def joinOperand (pending : Option (ClassOp × ClassExpr)) (members : List ClassExpr) : ClassExpr :=
  match pending with
  | some (op, left) => .combine op left (unionOf members)
  | none => unionOf members

def operator? : List Char → Option ClassOp
  | '&' :: '&' :: _ => some .inter
  | '-' :: '-' :: _ => some .diff
  | '~' :: '~' :: _ => some .symmDiff
  | _ => none

mutual
/-- A class in brackets, from the opening one to its partner. -/
def bracket : Nat → Read (Bool × ClassExpr)
  | 0 => failure
  | fuel + 1 => do
    expect '['
    skipSpace
    let negated := (← current) = '^'
    if negated then bumpSpace
    let start ← classStart
    let body ← classBody fuel none start
    return (negated, body)

/-- The members up to the closing bracket; `pending` is the operator before
them with its left side. -/
def classBody : Nat → Option (ClassOp × ClassExpr) → List ClassExpr → Read ClassExpr
  | 0, _, _ => failure
  | fuel + 1, pending, members => do
    skipSpace
    match ← current, operator? (← get).rest with
    | _, some op =>
      bump
      bump
      classBody fuel (some (op, joinOperand pending members)) []
    | ']', none =>
      bump
      return joinOperand pending members
    | '[', none =>
      match ← asciiClass with
      | some cls => classBody fuel pending (members ++ [cls])
      | none =>
        let (negated, body) ← bracket fuel
        classBody fuel pending (members ++ [.bracket negated body])
    | _, none =>
      let member ← classRange
      classBody fuel pending (members ++ [member])
end

-- -----------------------------------------------------------------------------
-- Groups

def flag? : Char → Option Flag
  | 'i' => some .ignoreCase
  | 'm' => some .multiLine
  | 's' => some .dotAll
  | 'U' => some .swapGreed
  | 'u' => some .unicode
  | 'R' => some .crlf
  | 'x' => some .ignoreSpace
  | _ => none

/-- The changes that flag letters write; those after a hyphen are switched off.
No letter comes twice, and a hyphen comes once and not at the end. -/
def flagChanges (on : Bool) (seen : FlagChanges) : List Char → Read FlagChanges
  | [] => do
    return seen
  | ['-'] => failure
  | '-' :: rest => do
    guard on
    flagChanges false seen rest
  | c :: rest => do
    let some flag := flag? c | failure
    guard !(seen.any (·.1 = flag))
    flagChanges on (seen ++ [(flag, on)]) rest

/-- Characters of a group name; the first one is a letter or `_`. -/
def isNameChar (isFirst : Bool) (c : Char) : Bool :=
  c = '_' || (if isFirst then Unicode.alphabetic.contains c
    else c = '.' || c = '[' || c = ']' || Unicode.alphanumeric.contains c)

def groupName : Read Unit := do
  let s ← get
  let name := s.rest.takeWhile (· ≠ '>')
  let text := String.ofList name
  guard (!name.isEmpty && (name.take 1).all (isNameChar true) &&
    (name.drop 1).all (isNameChar false) && !s.names.contains text)
  set { s with rest := s.rest.drop name.length, names := text :: s.names }
  expect '>'

/-- The start of a group: flags for the rest of the group around it, or the
flags of a group that is to be read. -/
inductive Opening where
  | changes (changes : FlagChanges)
  | group (changes : FlagChanges)

def opening : Read Opening := do
  expect '('
  skipSpace
  let rest := (← get).rest
  guard !((["?=", "?!", "?<=", "?<!"].any fun p => p.toList.isPrefixOf rest))
  if (← accept "?P<") || (← accept "?<") then
    groupName
    return .group []
  else if ← accept "?" then
    let letters := (← get).rest.takeWhile fun c => c ≠ ':' && c ≠ ')'
    modify fun s => { s with rest := s.rest.drop letters.length }
    let changes ← flagChanges true [] letters
    if (← take) = ')' then
      guard !letters.isEmpty
      return .changes changes
    else
      return .group changes
  else
    return .group []

/-- Applies a change of the flag that skips space. -/
def applyIgnoreSpace (changes : FlagChanges) : Read Unit := modify fun s =>
  { s with ignoreSpace := (changes.lookup .ignoreSpace).getD s.ignoreSpace }

-- -----------------------------------------------------------------------------
-- Expressions

/-- The bounds of a counted repetition, between its braces. -/
def counts : Read (Nat × Option Nat) := do
  expect '\x7b'
  skipSpace
  let least ← decimal
  let bounds ←
    if (← current) = ',' then do
      bumpSpace
      if (← current) = '\x7d' then pure (least, none)
      else do
        let most ← decimal
        pure (least, some most)
    else pure (least, some least)
  expect '\x7d'
  skipSpace
  guard (bounds.2.all (least ≤ ·))
  return bounds

/-- The part that a repetition applies to, with the parts before it. Parts are
kept last first. -/
def repeated : List Expr → Read (Expr × List Expr)
  | [] => failure
  | .empty :: _ => failure
  | .setFlags _ :: _ => failure
  | part :: before => return (part, before)

def concatOf : List Expr → Expr
  | [] => .empty
  | [only] => only
  | parts => .concat parts

def alternationOf : List Expr → Expr
  | [only] => only
  | branches => .alternation branches

/-- Whether a character repeats the part before it, and how often. -/
def repetition? : Char → Option (Nat × Option Nat)
  | '?' => some (0, some 1)
  | '*' => some (0, none)
  | '+' => some (1, none)
  | _ => none

/-- A part that is not a group, a class or a repetition. -/
def single : Read Expr := do
  match ← current with
  | '\\' => escape
  | '.' => bump; return .dot
  | '^' => bump; return .anchor .lineStart
  | '$' => bump; return .anchor .lineEnd
  | c => bump; return .literal ⟨c, false⟩

mutual
/-- The branches up to the end of the group. -/
def alternation : Nat → Read (List Expr)
  | 0 => failure
  | fuel + 1 => do
    let branch ← concat fuel []
    if ← accept "|" then
      return branch :: (← alternation fuel)
    else
      return [branch]

/-- The parts up to the end of the branch; those read before are in `parts`,
last first. -/
def concat : Nat → List Expr → Read Expr
  | 0, _ => failure
  | fuel + 1, parts => do
    skipSpace
    match ← peek with
    | none | some '|' | some ')' => return concatOf parts.reverse
    | some '(' =>
      let outer := (← get).ignoreSpace
      match ← opening with
      | .changes changes =>
        applyIgnoreSpace changes
        concat fuel (.setFlags changes :: parts)
      | .group changes =>
        applyIgnoreSpace changes
        let body ← alternation fuel
        expect ')'
        modify fun s => { s with ignoreSpace := outer }
        concat fuel (.group changes (alternationOf body) :: parts)
    | some '[' =>
      let (negated, body) ← bracket fuel
      concat fuel (.bracket negated body :: parts)
    | some '\x7b' =>
      let (part, before) ← repeated parts
      let (least, most) ← counts
      let _ ← accept "?"
      concat fuel (.repetition least most part :: before)
    | some c =>
      match repetition? c with
      | some (least, most) =>
        let (part, before) ← repeated parts
        bump
        let _ ← accept "?"
        concat fuel (.repetition least most part :: before)
      | none => do
        let part ← single
        concat fuel (part :: parts)
end

end Read

/-- Expressions may not be nested deeper than this. -/
def greatestDepth : Nat := 250

def Expr.ofText? (text : String) : Option Expr := do
  let characters := text.toList
  let (branches, s) ← (Read.alternation (2 * characters.length + 2)).run ⟨characters, false, []⟩
  guard s.rest.isEmpty
  let expr := Read.alternationOf branches
  guard (expr.depth ≤ greatestDepth)
  return expr

end TreeSchema.Pattern
