/-!
# Places in a text

A cursor is the rest of a text with the line, the column and the number of
characters before it. The characters that break lines are the line feed, the
carriage return, the next-line character and the two Unicode separators; a
carriage return with a line feed after it is one break.
-/

namespace TreeSchema.Yaml

def isBreak (c : Char) : Bool :=
  c = '\n' || c = '\r' || c = '\u0085' || c = '\u2028' || c = '\u2029'

def isBlank (c : Char) : Bool := c = ' ' || c = '\t'

/-- Whether a character, or the end of the text, separates words. -/
def isSpaceOrEnd (c : Option Char) : Bool := c.all fun c => isBlank c || isBreak c

def isBreakOrEnd (c : Option Char) : Bool := c.all isBreak

def isWordChar (c : Char) : Bool := c.isAlphanum || c = '_' || c = '-'

def isAllowed (c : Char) : Bool :=
  c = '\t' || c = '\n' || c = '\r' || ('\x20' ≤ c && c ≤ '\x7e') || c = '\u0085' ||
    ('\u00a0' ≤ c && c.toNat ≠ 0xFFFE && c.toNat ≠ 0xFFFF)

structure Cursor where
  rest : List Char
  index : Nat
  line : Nat
  column : Nat

namespace Cursor

def start (text : List Char) : Cursor := ⟨text, 0, 0, 0⟩

def peek (c : Cursor) : Option Char := c.rest.head?

def peekAt (c : Cursor) (n : Nat) : Option Char := (c.rest.drop n).head?

def atEnd (c : Cursor) : Bool := c.rest.isEmpty

def skip (c : Cursor) (n : Nat) : Cursor := ⟨c.rest.drop n, c.index + n, c.line, c.column + n⟩

/-- The characters that satisfy a condition, none of them a line break, and the
cursor behind them. -/
def takeWhile (c : Cursor) (condition : Char → Bool) : List Char × Cursor :=
  let taken := c.rest.takeWhile condition
  (taken, c.skip taken.length)

def skipWhile (c : Cursor) (condition : Char → Bool) : Cursor := (c.takeWhile condition).2

/-- Moves over a line break, if there is one. The text of the break is a line
feed, unless it is a Unicode separator. -/
def takeBreak (c : Cursor) : List Char × Cursor :=
  match c.rest with
  | '\r' :: '\n' :: rest => (['\n'], ⟨rest, c.index + 2, c.line + 1, 0⟩)
  | d :: rest =>
    if isBreak d then
      (if d = '\u2028' ∨ d = '\u2029' then [d] else ['\n'], ⟨rest, c.index + 1, c.line + 1, 0⟩)
    else ([], c)
  | [] => ([], c)

def skipBreak (c : Cursor) : Cursor := c.takeBreak.2

def skipLine (c : Cursor) : Cursor := c.skipWhile fun d => !isBreak d

/-- Whether a line starts with three equal characters, alone or before space. -/
def atMarker (c : Cursor) (mark : Char) : Bool :=
  c.column = 0 && c.rest.take 3 == [mark, mark, mark] && isSpaceOrEnd (c.peekAt 3)

def atDocumentMarker (c : Cursor) : Bool := c.atMarker '-' || c.atMarker '.'

end Cursor

end TreeSchema.Yaml
