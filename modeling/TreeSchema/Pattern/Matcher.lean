import TreeSchema.CharSet

/-!
# Matching

A matcher is a pattern reduced to two kinds of steps: moves over one character
of a set, and tests of the place between two characters. It runs on a set of
positions in a text and yields the positions that it reaches from any of them,
so no choice is ever undone. A set of positions is a number whose bit `i` stands
for position `i`.
-/

namespace TreeSchema.Pattern

-- Powers are the core ones, whatever else is in scope.
attribute [local instance (high)] instPowNat

/-- Tests of a position by the characters on its two sides. -/
inductive Test where
  | textStart
  | textEnd
  | lineStart (crlf : Bool)
  | lineEnd (crlf : Bool)
  | wordBoundary (word : CharSet)
  | notWordBoundary (word : CharSet)
  | wordStart (word : CharSet)
  | wordEnd (word : CharSet)
  | wordStartHalf (word : CharSet)
  | wordEndHalf (word : CharSet)

/-- Matchers over a type of moves and a type of tests. -/
inductive Matcher (Move Stay : Type) where
  | nothing
  | move (m : Move)
  | stay (test : Stay)
  | seq (first second : Matcher Move Stay)
  | alt (left right : Matcher Move Stay)
  | repetition (least : Nat) (most : Option Nat) (body : Matcher Move Stay)

namespace Test

/-- Whether the test holds between a character and the next one. -/
def holds (test : Test) (before after : Option Char) : Bool :=
  let isIn (word : CharSet) (c : Option Char) : Bool := c.any word.contains
  match test with
  | textStart => before.isNone
  | textEnd => after.isNone
  | lineStart crlf =>
    before.isNone || before == some '\n' || (crlf && before == some '\r' && after != some '\n')
  | lineEnd crlf =>
    after.isNone ||
      (if crlf then after == some '\r' || (after == some '\n' && before != some '\r')
        else after == some '\n')
  | wordBoundary word => isIn word before != isIn word after
  | notWordBoundary word => isIn word before == isIn word after
  | wordStart word => !isIn word before && isIn word after
  | wordEnd word => isIn word before && !isIn word after
  | wordStartHalf word => !isIn word before
  | wordEndHalf word => !isIn word after

end Test

namespace Matcher

variable {Move Stay Move' Stay' : Type}

def map (onMove : Move → Move') (onStay : Stay → Stay') : Matcher Move Stay → Matcher Move' Stay'
  | .nothing => .nothing
  | .move m => .move (onMove m)
  | .stay test => .stay (onStay test)
  | .seq first second => .seq (first.map onMove onStay) (second.map onMove onStay)
  | .alt left right => .alt (left.map onMove onStay) (right.map onMove onStay)
  | .repetition least most body => .repetition least most (body.map onMove onStay)

def sequence (matchers : List (Matcher Move Stay)) : Matcher Move Stay :=
  match matchers with
  | [] => .nothing
  | [only] => only
  | first :: rest => .seq first (sequence rest)

def choice (matchers : List (Matcher Move Stay)) : Matcher Move Stay :=
  match matchers with
  | [] => .nothing
  | [only] => only
  | first :: rest => .alt first (choice rest)

/-- How many passes may follow the first `least` ones. More passes than there are
positions reach nothing new. -/
def extra (least : Nat) (most : Option Nat) (positions : Nat) : Nat :=
  match most with
  | some most => min (most - least) positions
  | none => positions

/-- The positions after exactly `count` passes, stopping early when a pass
changes nothing. -/
def iterate (pass : Nat → Nat) : Nat → Nat → Nat
  | 0, from' => from'
  | count + 1, from' =>
    let next := pass from'
    if next = from' then next else iterate pass count next

/-- The positions after at most `count` passes, stopping early when a pass
reaches nothing new. -/
def iterateUpTo (pass : Nat → Nat) : Nat → Nat → Nat
  | 0, reached => reached
  | count + 1, reached =>
    let more := reached ||| pass reached
    if more = reached then reached else iterateUpTo pass count more

/-- The positions reached from a set of positions. A move is the set of
positions before a character that it can move over, a test the set of positions
where it holds; `positions` is the number of positions in the text. -/
def run (positions : Nat) : Matcher Nat Nat → Nat → Nat
  | .nothing, starts => starts
  | .move m, starts => (starts &&& m) <<< 1
  | .stay test, starts => starts &&& test
  | .seq first second, starts => second.run positions (first.run positions starts)
  | .alt left right, starts => left.run positions starts ||| right.run positions starts
  | .repetition least most body, starts =>
    iterateUpTo (body.run positions) (extra least most positions)
      (iterate (body.run positions) least starts)

/-- The positions of a text at which a condition on the characters around them
holds. -/
def positionsWhere (condition : Option Char → Option Char → Bool) (text : List Char) : Nat :=
  go none 0 1 text
where
  go (before : Option Char) (found bit : Nat) : List Char → Nat
    | [] => if condition before none then found ||| bit else found
    | c :: rest =>
      go (some c) (if condition before (some c) then found ||| bit else found) (2 * bit) rest

def onText (text : List Char) (m : Matcher CharSet Test) : Matcher Nat Nat :=
  m.map (fun set => positionsWhere (fun _ after => after.any set.contains) text)
    (fun test => positionsWhere test.holds text)

/-- Whether the matcher matches some part of a text. -/
def matchesText (m : Matcher CharSet Test) (text : List Char) : Bool :=
  let positions := text.length + 1
  (m.onText text).run positions (2 ^ positions - 1) ≠ 0

end Matcher

end TreeSchema.Pattern
