import TreeSchema.Yaml.Cursor
import TreeSchema.Yaml.Scalar
import TreeSchema.Yaml.Token

/-!
# Anchors, tags and directives
-/

namespace TreeSchema.Yaml

/-- The name of an anchor or an alias, after its indicator. -/
def readAnchorName (cursor : Cursor) : Option (String × Cursor) := do
  let (name, cursor) := (cursor.skip 1).takeWhile isWordChar
  guard !name.isEmpty
  guard (isSpaceOrEnd cursor.peek || cursor.peek.any "?:,]\x7d%@\x60".toList.contains)
  return (String.ofList name, cursor)

-- -----------------------------------------------------------------------------
-- Tags

/-- Characters of a tag. A complete tag may also hold flow indicators. -/
def isTagChar (complete : Bool) (c : Char) : Bool :=
  isWordChar c || ";/?:@&=+$.%!~*'()".toList.contains c ||
    (complete && (c = ',' || c = '[' || c = ']'))

/-- The number of bytes of an encoded character, from its first byte. -/
def encodedLength? (first : Nat) : Option Nat :=
  if first < 0x80 then some 1
  else if 0xC0 ≤ first ∧ first < 0xE0 then some 2
  else if 0xE0 ≤ first ∧ first < 0xF0 then some 3
  else if 0xF0 ≤ first ∧ first < 0xF8 then some 4
  else none

def readEscapedBytes : Nat → List Char → Option (List UInt8 × List Char)
  | 0, rest => some ([], rest)
  | count + 1, '%' :: a :: b :: rest => do
    let byte ← ofHex? [a, b]
    let (bytes, rest) ← readEscapedBytes count rest
    return (byte.toUInt8 :: bytes, rest)
  | _, _ => none

/-- The text of tag characters, in which percent escapes stand for the bytes of
characters. -/
def decodeTag : Nat → List Char → Option (List Char)
  | 0, _ => none
  | _ + 1, [] => some []
  | fuel + 1, '%' :: rest => do
    let first ← ofHex? (rest.take 2)
    guard (2 ≤ rest.length)
    let count ← encodedLength? first
    let (bytes, rest) ← readEscapedBytes count ('%' :: rest)
    let text ← String.fromUTF8? ⟨bytes.toArray⟩
    return text.toList ++ (← decodeTag fuel rest)
  | fuel + 1, c :: rest => do return c :: (← decodeTag fuel rest)

/-- Tag characters after `head`, of which there must be some. -/
def readTagText (complete : Bool) (head : List Char) (cursor : Cursor) :
    Option (String × Cursor) := do
  let (text, cursor) := cursor.takeWhile (isTagChar complete)
  guard !(text.isEmpty && head.isEmpty)
  let text ← decodeTag (text.length + 1) text
  return (String.ofList (head.drop 1 ++ text), cursor)

/-- A handle: word characters after `!`, with another `!` behind them if there is
one. -/
def readHandle (cursor : Cursor) : Option (List Char × Cursor) := do
  guard (cursor.peek = some '!')
  let (word, cursor) := (cursor.skip 1).takeWhile isWordChar
  if cursor.peek = some '!' then
    return ('!' :: word ++ ['!'], cursor.skip 1)
  else
    return ('!' :: word, cursor)

def isClosedHandle (handle : List Char) : Bool :=
  2 ≤ handle.length && handle.getLast? == some '!'

def readTag (inFlow : Bool) (cursor : Cursor) : Option (Tag × Cursor) := do
  let (tag, cursor) ←
    if cursor.peekAt 1 = some '<' then do
      let (text, cursor) ← readTagText true [] (cursor.skip 2)
      guard (cursor.peek = some '>')
      pure (⟨"", text⟩, cursor.skip 1)
    else do
      let (handle, cursor) ← readHandle cursor
      if isClosedHandle handle then do
        let (suffix, cursor) ← readTagText false [] cursor
        pure (⟨String.ofList handle, suffix⟩, cursor)
      else do
        let (suffix, cursor) ← readTagText false handle cursor
        pure (if suffix = "" then ⟨"", "!"⟩ else ⟨"!", suffix⟩, cursor)
  guard (isSpaceOrEnd cursor.peek || (inFlow && cursor.peek = some ','))
  return (tag, cursor)

-- -----------------------------------------------------------------------------
-- Directives

def readVersionNumber (cursor : Cursor) : Option (Nat × Cursor) := do
  let (digits, cursor) := cursor.takeWhile Char.isDigit
  guard (!digits.isEmpty && digits.length ≤ 9)
  return (digits.foldl (fun value c => 10 * value + (c.toNat - 0x30)) 0, cursor)

def readVersion (cursor : Cursor) : Option (Token × Cursor) := do
  let (major, cursor) ← readVersionNumber (cursor.skipWhile isBlank)
  guard (cursor.peek = some '.')
  let (minor, cursor) ← readVersionNumber (cursor.skip 1)
  return (.versionDirective major minor, cursor)

def readTagReplacement (cursor : Cursor) : Option (Token × Cursor) := do
  let (handle, cursor) ← readHandle (cursor.skipWhile isBlank)
  guard (handle.length = 1 || isClosedHandle handle)
  guard (cursor.peek.any isBlank)
  let (replacement, cursor) ← readTagText true [] (cursor.skipWhile isBlank)
  guard (isSpaceOrEnd cursor.peek)
  return (.tagDirective (String.ofList handle) replacement, cursor)

def readDirective (cursor : Cursor) : Option (Token × Cursor) := do
  let (name, cursor) := (cursor.skip 1).takeWhile isWordChar
  guard (!name.isEmpty && isSpaceOrEnd cursor.peek)
  let (token, cursor) ← match String.ofList name with
    | "YAML" => readVersion cursor
    | "TAG" => readTagReplacement cursor
    | _ => none
  let cursor := cursor.skipWhile isBlank
  let cursor := if cursor.peek = some '#' then cursor.skipLine else cursor
  guard (isBreakOrEnd cursor.peek)
  return (token, cursor.skipBreak)

end TreeSchema.Yaml
