import TreeSchema.Text
import TreeSchema.Value

/-!
# JSON text of a value

Compact text has no spaces and lists members in key order. Indented text puts
each item and member on a line of its own, two spaces deeper than its parent;
empty arrays and objects stay closed.
-/

namespace TreeSchema.Json

open Text (join)

def hexDigit (n : Nat) : Char := Nat.digitChar n

/-- A character inside a quoted string. Only the quote, the backslash and the
control characters below `U+0020` are escaped. -/
def escapeChar (c : Char) : List Char :=
  match c with
  | '"' => ['\\', '"']
  | '\\' => ['\\', '\\']
  | '\x08' => ['\\', 'b']
  | '\t' => ['\\', 't']
  | '\n' => ['\\', 'n']
  | '\x0c' => ['\\', 'f']
  | '\r' => ['\\', 'r']
  | c =>
    if c.toNat < 0x20 then
      ['\\', 'u', '0', '0', hexDigit (c.toNat / 16), hexDigit (c.toNat % 16)]
    else
      [c]

def quote (s : String) : String := String.ofList ('"' :: s.toList.flatMap escapeChar ++ ['"'])

mutual
def compact : Value → String
  | .null => "null"
  | .bool b => if b then "true" else "false"
  | .number n => n.text
  | .string s => quote s
  | .array items => "[" ++ join "," (compactItems items) ++ "]"
  | .object members => "\x7b" ++ join "," (compactMembers members) ++ "\x7d"

def compactItems : List Value → List String
  | [] => []
  | item :: rest => compact item :: compactItems rest

def compactMembers : List (String × Value) → List String
  | [] => []
  | (key, child) :: rest => (quote key ++ ":" ++ compact child) :: compactMembers rest
end

-- -----------------------------------------------------------------------------
-- Indented text

/-- A tree to print whose members keep the order in which they are given. -/
inductive Layout where
  | leaf (value : Value)
  | list (items : List Layout)
  | record (fields : List (String × Layout))

namespace Layout

mutual
def compact : Layout → String
  | .leaf value => Json.compact value
  | .list items => "[" ++ join "," (compactItems items) ++ "]"
  | .record fields => "\x7b" ++ join "," (compactFields fields) ++ "\x7d"

def compactItems : List Layout → List String
  | [] => []
  | item :: rest => item.compact :: compactItems rest

def compactFields : List (String × Layout) → List String
  | [] => []
  | (name, child) :: rest => (quote name ++ ":" ++ child.compact) :: compactFields rest
end

/-- A line break followed by the indentation of a depth. -/
def newline (depth : Nat) : String := String.ofList ('\n' :: List.replicate (2 * depth) ' ')

/-- Brackets around lines, one level deeper than the brackets. -/
def block (depth : Nat) (opening closing : String) : List String → String
  | [] => opening ++ closing
  | lines => opening ++ newline (depth + 1) ++ join ("," ++ newline (depth + 1)) lines ++
      newline depth ++ closing

mutual
def indented (depth : Nat) : Layout → String
  | .leaf value => Json.compact value
  | .list items => block depth "[" "]" (indentedItems (depth + 1) items)
  | .record fields => block depth "\x7b" "\x7d" (indentedFields (depth + 1) fields)

def indentedItems (depth : Nat) : List Layout → List String
  | [] => []
  | item :: rest => item.indented depth :: indentedItems depth rest

def indentedFields (depth : Nat) : List (String × Layout) → List String
  | [] => []
  | (name, child) :: rest =>
    (quote name ++ ": " ++ child.indented depth) :: indentedFields depth rest
end

end Layout

end TreeSchema.Json
