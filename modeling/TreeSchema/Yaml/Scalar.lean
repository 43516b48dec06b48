import TreeSchema.Yaml.Cursor

/-!
# Scalar texts

Quoted, plain and block scalars. A line break inside a quoted or plain scalar is
folded: alone it becomes a space, with more breaks after it it is dropped.
Readers return the text with the cursor behind it, or `none` when the scalar is
malformed.
-/

namespace TreeSchema.Yaml

-- -----------------------------------------------------------------------------
-- Folding

structure Gap where
  blanks : List Char
  firstBreak : List Char
  moreBreaks : List Char
  /-- Whether the gap spans lines. -/
  broken : Bool

namespace Gap

def text (gap : Gap) : List Char :=
  if !gap.broken then gap.blanks
  else if gap.firstBreak = ['\n'] then
    if gap.moreBreaks.isEmpty then [' '] else gap.moreBreaks
  else gap.firstBreak ++ gap.moreBreaks

/-- Reads blanks and line breaks. Where a tab may not stand in the indentation,
`indent` is the number of columns that it covers. -/
def read (indent : Nat) : Nat → Gap → Cursor → Option (Gap × Cursor)
  | 0, _, _ => none
  | fuel + 1, gap, cursor =>
    match cursor.peek with
    | some c =>
      if isBlank c then
        if gap.broken && cursor.column < indent && c = '\t' then none
        else
          let gap := if gap.broken then gap else { gap with blanks := gap.blanks ++ [c] }
          read indent fuel gap (cursor.skip 1)
      else if isBreak c then
        let (lineBreak, cursor) := cursor.takeBreak
        let gap :=
          if gap.broken then { gap with moreBreaks := gap.moreBreaks ++ lineBreak }
          else { gap with blanks := [], firstBreak := lineBreak, broken := true }
        read indent fuel gap cursor
      else some (gap, cursor)
    | none => some (gap, cursor)

/-- The gap at a cursor; `broken` if a line break was passed before. -/
def at? (indent : Nat) (broken : Bool) (cursor : Cursor) : Option (Gap × Cursor) :=
  read indent (cursor.rest.length + 1) ⟨[], [], [], broken⟩ cursor

end Gap

-- -----------------------------------------------------------------------------
-- Quoted scalars

def escapedChar? : Char → Option Char
  | '0' => some '\x00'
  | 'a' => some '\x07'
  | 'b' => some '\x08'
  | 't' | '\t' => some '\t'
  | 'n' => some '\n'
  | 'v' => some '\x0b'
  | 'f' => some '\x0c'
  | 'r' => some '\r'
  | 'e' => some '\x1b'
  | ' ' => some ' '
  | '"' => some '"'
  | '/' => some '/'
  | '\\' => some '\\'
  | 'N' => some '\u0085'
  | '_' => some '\u00a0'
  | 'L' => some '\u2028'
  | 'P' => some '\u2029'
  | _ => none

def escapeDigits? : Char → Option Nat
  | 'x' => some 2
  | 'u' => some 4
  | 'U' => some 8
  | _ => none

def hexValue? (c : Char) : Option Nat :=
  if c.isDigit then some (c.toNat - 0x30)
  else if 'a' ≤ c ∧ c ≤ 'f' then some (c.toNat - 0x61 + 10)
  else if 'A' ≤ c ∧ c ≤ 'F' then some (c.toNat - 0x41 + 10)
  else none

def ofHex? (digits : List Char) : Option Nat :=
  digits.foldlM (fun value c => (hexValue? c).map (16 * value + ·)) 0

/-- An escape in a double-quoted scalar, after the backslash. -/
def readEscape (cursor : Cursor) : Option (Char × Cursor) := do
  let letter ← cursor.peek
  match escapeDigits? letter with
  | some count =>
    let digits := (cursor.rest.drop 1).take count
    guard (digits.length = count)
    let value ← ofHex? digits
    guard value.isValidChar
    return (Char.ofNat value, cursor.skip (count + 1))
  | none => return (← escapedChar? letter, cursor.skip 1)

/-- A run of characters in quotes up to space or the closing quote, and whether
an escaped line break ended it. -/
def readQuotedRun (double : Bool) : Nat → Cursor → Option (List Char × Bool × Cursor)
  | 0, _ => none
  | fuel + 1, cursor =>
    match cursor.rest with
    | [] => some ([], false, cursor)
    | c :: rest =>
      if isBlank c || isBreak c then some ([], false, cursor)
      else if !double && c = '\'' then
        if rest.head? = some '\'' then
          (readQuotedRun double fuel (cursor.skip 2)).map fun (run, end') => ('\'' :: run, end')
        else some ([], false, cursor)
      else if double && c = '"' then some ([], false, cursor)
      else if double && c = '\\' then
        if rest.head?.any isBreak then some ([], true, (cursor.skip 1).skipBreak)
        else do
          let (c, cursor) ← readEscape (cursor.skip 1)
          let (run, end') ← readQuotedRun double fuel cursor
          return (c :: run, end')
      else (readQuotedRun double fuel (cursor.skip 1)).map fun (run, end') => (c :: run, end')

/-- The rest of a quoted scalar, after its opening quote. -/
def readQuotedRest (double : Bool) : Nat → Cursor → Option (List Char × Cursor)
  | 0, _ => none
  | fuel + 1, cursor => do
    guard !(cursor.atDocumentMarker || cursor.atEnd)
    let (run, broken, cursor) ← readQuotedRun double (cursor.rest.length + 1) cursor
    if cursor.peek = some (if double then '"' else '\'') then
      return (run, cursor.skip 1)
    let (gap, cursor) ← Gap.at? 0 broken cursor
    let (text, cursor) ← readQuotedRest double fuel cursor
    return (run ++ gap.text ++ text, cursor)

def readQuoted (double : Bool) (cursor : Cursor) : Option (String × Cursor) := do
  let (text, cursor) ← readQuotedRest double (cursor.rest.length + 1) (cursor.skip 1)
  return (String.ofList text, cursor)

-- -----------------------------------------------------------------------------
-- Plain scalars

def isFlowIndicator (c : Char) : Bool := c = ',' || c = '[' || c = ']' || c = '\x7b' || c = '\x7d'

/-- A run of characters of a plain scalar. Inside brackets, a colon may not
stand before an indicator. -/
def plainRun (inFlow : Bool) : List Char → Option (List Char)
  | [] => some []
  | c :: rest =>
    if isBlank c || isBreak c then some []
    else if inFlow && c = ':' && rest.head?.any (fun d => isFlowIndicator d || d = '?') then none
    else if c = ':' && isSpaceOrEnd rest.head? then some []
    else if inFlow && isFlowIndicator c then some []
    else (plainRun inFlow rest).map (c :: ·)

/-- The runs of a plain scalar with the gaps between them. The flag tells whether
the gap before this place spans lines, and the answer whether the last one
does. -/
def readPlainRuns (inFlow : Bool) (indent : Nat) :
    Nat → Gap → Cursor → Option (List Char × Bool × Cursor)
  | 0, _, _ => none
  | fuel + 1, gap, cursor => do
    if cursor.atDocumentMarker || cursor.peek = some '#' then return ([], gap.broken, cursor)
    let run ← plainRun inFlow cursor.rest
    let cursor := cursor.skip run.length
    let before := if run.isEmpty then [] else gap.text ++ run
    if !cursor.peek.any (fun c => isBlank c || isBreak c) then
      return (before, run.isEmpty && gap.broken, cursor)
    let (gap, cursor) ← Gap.at? indent false cursor
    if !inFlow && cursor.column < indent then return (before, gap.broken, cursor)
    let (text, broken, cursor) ← readPlainRuns inFlow indent fuel gap cursor
    return (before ++ text, broken, cursor)

/-- A plain scalar, and whether a line break follows it. In blocks it ends where
a line is indented by fewer than `indent` columns. -/
def readPlain (inFlow : Bool) (indent : Nat) (cursor : Cursor) :
    Option (String × Bool × Cursor) := do
  let (text, broken, cursor) ←
    readPlainRuns inFlow indent (cursor.rest.length + 1) ⟨[], [], [], false⟩ cursor
  return (String.ofList text, broken, cursor)

-- -----------------------------------------------------------------------------
-- Block scalars

/-- What happens to the line breaks at the end of a block scalar. -/
inductive Chomping where
  | strip
  | clip
  | keep
  deriving DecidableEq

def readChomping (cursor : Cursor) : Option Chomping × Cursor :=
  match cursor.peek with
  | some '+' => (some .keep, cursor.skip 1)
  | some '-' => (some .strip, cursor.skip 1)
  | _ => (none, cursor)

/-- The digit that tells the indentation; `0` is not allowed. -/
def readIndentation (cursor : Cursor) : Option (Option Nat × Cursor) :=
  match cursor.peek with
  | some c =>
    if c = '0' then none
    else if c.isDigit then some (some (c.toNat - 0x30), cursor.skip 1)
    else some (none, cursor)
  | none => some (none, cursor)

/-- The indicators after `|` or `>`, in either order. -/
def readBlockHeader (cursor : Cursor) : Option (Chomping × Option Nat × Cursor) := do
  let (chomping, cursor) := readChomping cursor
  let (increment, cursor) ← readIndentation cursor
  let (chomping, cursor) := match chomping with
    | some chomping => (chomping, cursor)
    | none =>
      let (chomping, next) := readChomping cursor
      if increment.isSome then (chomping.getD .clip, next) else (.clip, cursor)
  let cursor := cursor.skipWhile isBlank
  let cursor := if cursor.peek = some '#' then cursor.skipLine else cursor
  guard (isBreakOrEnd cursor.peek)
  return (chomping, increment, cursor.skipBreak)

/-- Empty lines before content: their breaks, and the greatest column that was
reached. With an indentation of `0`, which is not known yet, all spaces count as
indentation. -/
def readEmptyLines (indent : Nat) :
    Nat → Nat → Cursor → Option (List Char × Nat × Cursor)
  | 0, _, _ => none
  | fuel + 1, greatest, cursor =>
    let spaces := (cursor.rest.takeWhile (· = ' ')).length
    let spaces := if indent = 0 then spaces else min spaces (indent - cursor.column)
    let cursor := cursor.skip spaces
    let greatest := max greatest cursor.column
    if (indent = 0 ∨ cursor.column < indent) ∧ cursor.peek = some '\t' then none
    else if cursor.peek.any isBreak then
      let (lineBreak, cursor) := cursor.takeBreak
      (readEmptyLines indent fuel greatest cursor).map fun (breaks, rest) =>
        (lineBreak ++ breaks, rest)
    else some ([], greatest, cursor)

def emptyLines (indent : Nat) (cursor : Cursor) : Option (List Char × Nat × Cursor) :=
  readEmptyLines indent (cursor.rest.length + 1) 0 cursor

/-- The lines of a block scalar. `lastBreak` ended the line before, `breaks` are
those of the empty lines since then, and `indented` tells whether that line
started with a blank. The answer ends with the last breaks, which are subject to
chomping. -/
def readBlockLines (literal : Bool) (indent : Nat) :
    Nat → List Char → List Char → Bool → Cursor →
      Option (List Char × List Char × List Char × Cursor)
  | 0, _, _, _, _ => none
  | fuel + 1, lastBreak, breaks, indented, cursor => do
    if cursor.column ≠ indent ∨ cursor.atEnd then return ([], lastBreak, breaks, cursor)
    let startsBlank := cursor.peek.any isBlank
    let folded := !literal && lastBreak == ['\n'] && !indented && !startsBlank
    let gap := if folded then (if breaks.isEmpty then [' '] else breaks) else lastBreak ++ breaks
    let (line, cursor) := cursor.takeWhile fun c => !isBreak c
    let (lineBreak, cursor) := cursor.takeBreak
    let (nextBreaks, _, cursor) ← emptyLines indent cursor
    let (text, rest) ← readBlockLines literal indent fuel lineBreak nextBreaks startsBlank cursor
    return (gap ++ line ++ text, rest)

/-- A block scalar. `parent` is the indentation of the block around it, if there
is one. -/
def readBlock (literal : Bool) (parent : Option Nat) (cursor : Cursor) :
    Option (String × Cursor) := do
  let (chomping, increment, cursor) ← readBlockHeader (cursor.skip 1)
  let stated := (increment.map (parent.getD 0 + ·)).getD 0
  let (breaks, greatest, cursor) ← emptyLines stated cursor
  let least := (parent.map (· + 1)).getD 0
  let indent := if stated = 0 then max (max greatest least) 1 else stated
  let (text, lastBreak, breaks, cursor) ←
    readBlockLines literal indent (cursor.rest.length + 1) [] breaks false cursor
  let kept := match chomping with
    | .strip => []
    | .clip => lastBreak
    | .keep => lastBreak ++ breaks
  return (String.ofList (text ++ kept), cursor)

end TreeSchema.Yaml
