import TreeSchema.CharSet

/-!
# Pattern expressions

The tree that a pattern's text denotes, before flags are taken into account.
Flags set inside a group hold for the rest of that group.
-/

namespace TreeSchema.Pattern

inductive Flag where
  | ignoreCase
  | multiLine
  | dotAll
  | swapGreed
  | unicode
  | crlf
  | ignoreSpace
  deriving DecidableEq, Repr

/-- Flags in the order in which they are written, each switched on or off. -/
abbrev FlagChanges := List (Flag × Bool)

/-- A character, and whether it was written as a two-digit hexadecimal number,
which denotes a byte where patterns are not Unicode-aware. -/
structure Literal where
  char : Char
  asByte : Bool

inductive Anchor where
  | lineStart
  | lineEnd
  | textStart
  | textEnd
  | wordBoundary
  | notWordBoundary
  | wordStart
  | wordEnd
  | wordStartHalf
  | wordEndHalf
  deriving DecidableEq, Repr

inductive NamedClass where
  | digit
  | space
  | word
  | property (name : String)
  | propertyValue (name value : String)

inductive ClassOp where
  | inter
  | diff
  | symmDiff

inductive ClassExpr where
  | literal (c : Literal)
  | range (first last : Literal)
  | ascii (set : CharSet) (negated : Bool)
  | named (cls : NamedClass) (negated : Bool)
  | bracket (negated : Bool) (body : ClassExpr)
  | union (members : List ClassExpr)
  | combine (op : ClassOp) (left right : ClassExpr)

inductive Expr where
  | empty
  | setFlags (changes : FlagChanges)
  | literal (c : Literal)
  | dot
  | anchor (a : Anchor)
  | named (cls : NamedClass) (negated : Bool)
  | bracket (negated : Bool) (body : ClassExpr)
  | repetition (least : Nat) (most : Option Nat) (body : Expr)
  | group (changes : FlagChanges) (body : Expr)
  | alternation (branches : List Expr)
  | concat (parts : List Expr)

-- -----------------------------------------------------------------------------
-- Nesting

mutual
/-- How many bracketed classes, unions and operators lie inside one another. The
empty union is a leaf. -/
def ClassExpr.depth : ClassExpr → Nat
  | .bracket _ body => body.depth + 1
  | .union [] => 0
  | .union members => ClassExpr.depthOfAll members + 1
  | .combine _ left right => max left.depth right.depth + 1
  | _ => 0

def ClassExpr.depthOfAll : List ClassExpr → Nat
  | [] => 0
  | member :: rest => max member.depth (ClassExpr.depthOfAll rest)
end

mutual
/-- How many expressions with parts lie inside one another. -/
def Expr.depth : Expr → Nat
  | .bracket _ body => body.depth + 1
  | .repetition _ _ body => body.depth + 1
  | .group _ body => body.depth + 1
  | .alternation branches => Expr.depthOfAll branches + 1
  | .concat parts => Expr.depthOfAll parts + 1
  | _ => 0

def Expr.depthOfAll : List Expr → Nat
  | [] => 0
  | part :: rest => max part.depth (Expr.depthOfAll rest)
end

end TreeSchema.Pattern
