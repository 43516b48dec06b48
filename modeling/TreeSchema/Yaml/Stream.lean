import TreeSchema.Yaml.Tag

/-!
# The tokens of a text

The layout of a text becomes tokens here. `indent` is the indentation of the
innermost block collection; deeper lines start a collection and shallower lines
end them. A token that may turn out to be a key is remembered as a candidate
until a colon follows it, which puts a key token before it. A candidate lasts
for one line and 1024 characters.
-/

namespace TreeSchema.Yaml

structure Candidate where
  /-- Whether a colon must follow, because a block mapping goes on here. -/
  required : Bool
  /-- How many tokens stand before it. -/
  position : Nat
  index : Nat
  line : Nat
  column : Nat

structure Layout where
  cursor : Cursor
  /-- The tokens so far, last first. -/
  tokens : List Token
  /-- The indentation of the block collections around this place, innermost
  first. -/
  indents : List Nat
  /-- The candidate of each open flow collection, innermost first, and of the
  block outside them. -/
  candidates : List (Option Candidate)
  /-- Whether a key may start here. -/
  keyAllowed : Bool

abbrev Scan := StateT Layout Option

namespace Scan

def inFlow (s : Layout) : Bool := 1 < s.candidates.length

/-- Columns below this one end the innermost block collection. -/
def indentOf (s : Layout) : Option Nat := s.indents.head?

def emit (token : Token) : Scan Unit := modify fun s => { s with tokens := token :: s.tokens }

def insert (position : Nat) (token : Token) : Scan Unit := modify fun s =>
  let after := s.tokens.length - position
  { s with tokens := s.tokens.take after ++ token :: s.tokens.drop after }

def setKeyAllowed (keyAllowed : Bool) : Scan Unit := modify fun s => { s with keyAllowed }

def moveTo (cursor : Cursor) : Scan Unit := modify fun s => { s with cursor }

def skip (n : Nat) : Scan Unit := modify fun s => { s with cursor := s.cursor.skip n }

/-- Emits a token that is written as `length` characters. -/
def emitIndicator (token : Token) (length : Nat) : Scan Unit := do
  skip length
  emit token

-- -----------------------------------------------------------------------------
-- Candidates

/-- Forgets the innermost candidate. One that is required may not be
forgotten. -/
def dropCandidate : Scan Unit := do
  let s ← get
  match s.candidates with
  | candidate :: rest =>
    guard !(candidate.any (·.required))
    set { s with candidates := none :: rest }
  | [] => return

/-- Makes the next token a candidate, if a key may start here. -/
def addCandidate : Scan Unit := do
  let s ← get
  if s.keyAllowed then
    dropCandidate
    let required := !inFlow s && indentOf s == some s.cursor.column
    let candidate : Candidate :=
      ⟨required, s.tokens.length, s.cursor.index, s.cursor.line, s.cursor.column⟩
    modify fun s => { s with candidates := some candidate :: s.candidates.drop 1 }

def dropStale : Scan Unit := do
  let s ← get
  let isStale (c : Candidate) : Bool :=
    c.line < s.cursor.line || c.index + 1024 < s.cursor.index
  guard (s.candidates.all fun c => c.all fun c => !(isStale c && c.required))
  set { s with candidates := s.candidates.map (Option.filter (!isStale ·)) }

-- -----------------------------------------------------------------------------
-- Indentation

/-- Starts a block collection at a column that is deeper than the innermost one,
behind the first `position` tokens. -/
def indentTo (column : Nat) (position : Nat) (start : Token) : Scan Unit := do
  let s ← get
  if !inFlow s ∧ (indentOf s).all (· < column) then
    set { s with indents := column :: s.indents }
    insert position start

/-- Ends the block collections that are deeper than a column, or all of them. -/
def unindentTo (column : Option Nat) : Scan Unit := modify fun s =>
  if inFlow s then s
  else
    let ended := s.indents.takeWhile fun indent => column.all (· < indent)
    { s with
      indents := s.indents.drop ended.length
      tokens := List.replicate ended.length .blockEnd ++ s.tokens }

-- -----------------------------------------------------------------------------
-- Space

/-- Moves over space and comments. In blocks, a new line allows a key, and tabs
may not indent one. -/
def skipSpace : Nat → Scan Unit
  | 0 => failure
  | fuel + 1 => do
    let s ← get
    let tabs := inFlow s || !s.keyAllowed
    let cursor := s.cursor.skipWhile fun c => c = ' ' || (tabs && c = '\t')
    let cursor := if cursor.peek = some '#' then cursor.skipLine else cursor
    if cursor.peek.any isBreak then
      set { s with cursor := cursor.skipBreak, keyAllowed := s.keyAllowed || !inFlow s }
      skipSpace fuel
    else
      moveTo cursor

-- -----------------------------------------------------------------------------
-- Tokens

def openFlow (token : Token) : Scan Unit := do
  addCandidate
  modify fun s => { s with candidates := none :: s.candidates, keyAllowed := true }
  emitIndicator token 1

def closeFlow (token : Token) : Scan Unit := do
  dropCandidate
  modify fun s => { s with
    candidates := if inFlow s then s.candidates.drop 1 else s.candidates
    keyAllowed := false }
  emitIndicator token 1

def flowEntry : Scan Unit := do
  dropCandidate
  setKeyAllowed true
  emitIndicator .flowEntry 1

/-- Starts an entry of a block collection, which must be where a key may
start. -/
def startEntry (collection : Token) : Scan Unit := do
  let s ← get
  guard (inFlow s || s.keyAllowed)
  indentTo s.cursor.column s.tokens.length collection

def blockEntry : Scan Unit := do
  startEntry .blockSequenceStart
  dropCandidate
  setKeyAllowed true
  emitIndicator .blockEntry 1

def key : Scan Unit := do
  startEntry .blockMappingStart
  dropCandidate
  setKeyAllowed !(inFlow (← get))
  emitIndicator .key 1

/-- A colon makes the candidate a key. Without one, the key is empty. -/
def value : Scan Unit := do
  let s ← get
  match s.candidates with
  | some candidate :: rest =>
    set { s with candidates := none :: rest, keyAllowed := false }
    insert candidate.position .key
    indentTo candidate.column candidate.position .blockMappingStart
  | _ =>
    startEntry .blockMappingStart
    setKeyAllowed !(inFlow s)
  emitIndicator .value 1

/-- Ends the block collections before a line that does not belong to them. -/
def endBlocks : Scan Unit := do
  unindentTo none
  dropCandidate
  setKeyAllowed false

def directive : Scan Unit := do
  endBlocks
  let (token, cursor) ← readDirective (← get).cursor
  emit token
  moveTo cursor

def documentMarker (token : Token) : Scan Unit := do
  endBlocks
  emitIndicator token 3

/-- A token that may be part of a key. -/
def keyPart (read : Layout → Option (Token × Cursor)) : Scan Unit := do
  addCandidate
  setKeyAllowed false
  let (token, cursor) ← read (← get)
  emit token
  moveTo cursor

def anchor (token : String → Token) : Scan Unit := keyPart fun s =>
  (readAnchorName s.cursor).map fun (name, cursor) => (token name, cursor)

def tag : Scan Unit := keyPart fun s =>
  (readTag (inFlow s) s.cursor).map fun (tag, cursor) => (.tag tag, cursor)

def quoted (double : Bool) : Scan Unit := keyPart fun s =>
  (readQuoted double s.cursor).map fun (text, cursor) => (.scalar text .quoted, cursor)

/-- A line break after a plain scalar allows a key again. -/
def plain : Scan Unit := do
  addCandidate
  let s ← get
  let indent := ((indentOf s).map (· + 1)).getD 0
  let (text, broken, cursor) ← readPlain (inFlow s) indent s.cursor
  setKeyAllowed broken
  emit (.scalar text .plain)
  moveTo cursor

def block (literal : Bool) : Scan Unit := do
  dropCandidate
  setKeyAllowed true
  let s ← get
  let (text, cursor) ← readBlock literal (indentOf s) s.cursor
  emit (.scalar text .quoted)
  moveTo cursor

def isIndicator (c : Char) : Bool := "-?:,[]\x7b\x7d#&*!|>'\"%@\x60".toList.contains c

/-- Whether a plain scalar starts here. A tab that could not be skipped starts
none. -/
def startsPlain (inFlow : Bool) (c : Char) (next : Option Char) : Bool :=
  !(isBlank c || isIndicator c) || (c = '-' && !next.any isBlank) ||
    (!inFlow && (c = '?' || c = ':') && !isSpaceOrEnd next)

def endStream : Scan Unit := do
  endBlocks
  emit .streamEnd

def token (c : Char) : Scan Unit := do
  let s ← get
  let flow := inFlow s
  let next := s.cursor.peekAt 1
  let spaced := isSpaceOrEnd next
  if s.cursor.column = 0 && c = '%' then directive
  else if s.cursor.atMarker '-' then documentMarker .documentStart
  else if s.cursor.atMarker '.' then documentMarker .documentEnd
  else if c = '[' then openFlow .flowSequenceStart
  else if c = '\x7b' then openFlow .flowMappingStart
  else if c = ']' then closeFlow .flowSequenceEnd
  else if c = '\x7d' then closeFlow .flowMappingEnd
  else if c = ',' then flowEntry
  else if c = '-' && spaced then blockEntry
  else if c = '?' && (flow || spaced) then key
  else if c = ':' && (flow || spaced) then value
  else if c = '*' then anchor .alias
  else if c = '&' then anchor .anchor
  else if c = '!' then tag
  else if c = '|' && !flow then block true
  else if c = '>' && !flow then block false
  else if c = '\'' then quoted false
  else if c = '"' then quoted true
  else if startsPlain flow c next then plain
  else failure

/-- The tokens up to the end of the text. -/
def stream : Nat → Scan Unit
  | 0 => failure
  | fuel + 1 => do
    skipSpace ((← get).cursor.rest.length + 1)
    dropStale
    let cursor := (← get).cursor
    match cursor.peek with
    | none => endStream
    | some c =>
      unindentTo (some cursor.column)
      token c
      stream fuel

end Scan

/-- The tokens of a text. A byte order mark at its start stands for nothing but
takes up a column. -/
def tokens? (text : String) : Option (List Token) := do
  let characters := text.toList
  guard (characters.all isAllowed)
  let cursor := Cursor.start characters
  let cursor := if cursor.peek = some '\ufeff' then cursor.skip 1 else cursor
  let start : Layout := ⟨cursor, [], [], [none], true⟩
  let (_, s) ← (Scan.stream (characters.length + 2)).run start
  return s.tokens.reverse

end TreeSchema.Yaml
