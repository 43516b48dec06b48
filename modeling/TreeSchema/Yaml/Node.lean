import TreeSchema.Yaml.Stream

/-!
# Nodes

The tree that the tokens of a document denote. An alias refers to an anchor; by
name as it is written, and by position once the document is linked.
-/

namespace TreeSchema.Yaml

/-- What stands before the content of a node. A tag is complete here. -/
structure Properties where
  anchor : Option String
  tag : Option String

inductive Node (Ref : Type) where
  | alias (target : Ref)
  | scalar (properties : Properties) (text : String) (style : Style)
  | sequence (properties : Properties) (items : List (Node Ref))
  | mapping (properties : Properties) (entries : List (Node Ref × Node Ref))

namespace Node

def blank : Node String := .scalar ⟨none, none⟩ "" .plain

/-- Tag handles with the text that they stand for. -/
abbrev Handles := List (String × String)

def standardHandles : Handles := [("!", "!"), ("!!", "tag:yaml.org,2002:")]

abbrev Parse := StateT (List Token) Option

def peek : Parse Token := do
  let token :: _ ← get | failure
  return token

def advance : Parse Unit := modify (·.drop 1)

def expect (token : Token) : Parse Unit := do
  guard ((← peek) = token)
  advance

def accept (token : Token) : Parse Bool := do
  if (← peek) = token then
    advance
    return true
  else
    return false

def completeTag (handles : Handles) (tag : Tag) : Parse String :=
  if tag.handle = "" then return tag.suffix
  else match handles.lookup tag.handle with
    | some replacement => return replacement ++ tag.suffix
    | none => failure

/-- An anchor and a tag, each at most once, in either order. -/
def properties (handles : Handles) : Parse Properties := do
  let anchor ← readAnchor
  let tag ← readTag
  let anchor ← if anchor.isSome then pure anchor else readAnchor
  return ⟨anchor, ← tag.mapM (completeTag handles)⟩
where
  readAnchor : Parse (Option String) := do
    let .anchor name ← peek | return none
    advance
    return some name
  readTag : Parse (Option Tag) := do
    let .tag tag ← peek | return none
    advance
    return some tag

mutual
/-- A node. Block collections may stand where `inBlock` holds, and a block
sequence without indentation of its own where `inMapping` does. -/
def read (handles : Handles) : Nat → Bool → Bool → Parse (Node String)
  | 0, _, _ => failure
  | fuel + 1, inBlock, inMapping => do
    if let .alias name ← peek then
      advance
      return .alias name
    let properties ← properties handles
    match ← peek, inBlock, inMapping with
    | .blockEntry, _, true => return .sequence properties (← looseItems handles fuel)
    | .scalar text style, _, _ =>
      advance
      return .scalar { properties with tag := properties.tag.filter (· ≠ "!") } text style
    | .flowSequenceStart, _, _ =>
      advance
      return .sequence properties (← flowItems handles fuel true)
    | .flowMappingStart, _, _ =>
      advance
      return .mapping properties (← flowEntries handles fuel true)
    | .blockSequenceStart, true, _ =>
      advance
      return .sequence properties (← blockItems handles fuel)
    | .blockMappingStart, true, _ =>
      advance
      return .mapping properties (← blockEntries handles fuel)
    | _, _, _ =>
      guard (properties.anchor.isSome || properties.tag.isSome)
      return .scalar properties "" .plain

def readUnless (handles : Handles) (stops : List Token) :
    Nat → Bool → Bool → Parse (Node String)
  | 0, _, _ => failure
  | fuel + 1, inBlock, inMapping => do
    if stops.contains (← peek) then return blank else read handles fuel inBlock inMapping

def blockItems (handles : Handles) : Nat → Parse (List (Node String))
  | 0 => failure
  | fuel + 1 => do
    if ← accept .blockEnd then return []
    expect .blockEntry
    let item ← readUnless handles [.blockEntry, .blockEnd] fuel true false
    return item :: (← blockItems handles fuel)

/-- The items of a block sequence at the indentation of the mapping around
it. -/
def looseItems (handles : Handles) : Nat → Parse (List (Node String))
  | 0 => failure
  | fuel + 1 => do
    if !(← accept .blockEntry) then return []
    let item ← readUnless handles [.blockEntry, .key, .value, .blockEnd] fuel true false
    return item :: (← looseItems handles fuel)

def blockEntries (handles : Handles) : Nat → Parse (List (Node String × Node String))
  | 0 => failure
  | fuel + 1 => do
    if ← accept .blockEnd then return []
    expect .key
    let key ← readUnless handles [.key, .value, .blockEnd] fuel true true
    let value ←
      if ← accept .value then readUnless handles [.key, .value, .blockEnd] fuel true true
      else pure blank
    return (key, value) :: (← blockEntries handles fuel)

/-- The items of a flow sequence. An item that starts with a key is a mapping of
one entry; where that key is left out, the token behind it is lost. -/
def flowItems (handles : Handles) : Nat → Bool → Parse (List (Node String))
  | 0, _ => failure
  | fuel + 1, first => do
    if ← accept .flowSequenceEnd then return []
    if !first then expect .flowEntry
    if ← accept .flowSequenceEnd then return []
    let item ←
      if ← accept .key then do
        let stops : List Token := [.value, .flowEntry, .flowSequenceEnd]
        let leftOut := stops.contains (← peek)
        let key ← readUnless handles stops fuel false false
        if leftOut then advance
        let value ←
          if ← accept .value then
            readUnless handles [.flowEntry, .flowSequenceEnd] fuel false false
          else pure blank
        pure (.mapping ⟨none, none⟩ [(key, value)])
      else read handles fuel false false
    return item :: (← flowItems handles fuel false)

def flowEntries (handles : Handles) : Nat → Bool → Parse (List (Node String × Node String))
  | 0, _ => failure
  | fuel + 1, first => do
    if ← accept .flowMappingEnd then return []
    if !first then expect .flowEntry
    if ← accept .flowMappingEnd then return []
    let entry ←
      if ← accept .key then do
        let key ← readUnless handles [.value, .flowEntry, .flowMappingEnd] fuel false false
        let value ←
          if ← accept .value then
            readUnless handles [.flowEntry, .flowMappingEnd] fuel false false
          else pure blank
        pure (key, value)
      else do
        let key ← read handles fuel false false
        pure (key, blank)
    return entry :: (← flowEntries handles fuel false)
end

-- -----------------------------------------------------------------------------
-- Documents

/-- The directives before a document: at most one version, which must be known,
and tag handles, each at most once. -/
def directives (seenVersion : Bool) (handles : Handles) : Nat → Parse Handles
  | 0 => failure
  | fuel + 1 => do
    match ← peek with
    | .versionDirective major minor =>
      guard (!seenVersion && major = 1 && (minor = 1 || minor = 2))
      advance
      directives true handles fuel
    | .tagDirective handle replacement =>
      guard (handles.lookup handle).isNone
      advance
      directives seenVersion ((handle, replacement) :: handles) fuel
    | _ => return handles

/-- Whether a token belongs to the frame of a document and not to its
content. -/
def isFrame : Token → Bool
  | .versionDirective .. | .tagDirective .. | .documentStart | .documentEnd | .streamEnd => true
  | _ => false

def skipDocumentEnds : Nat → Parse Unit
  | 0 => failure
  | fuel + 1 => do if ← accept .documentEnd then skipDocumentEnds fuel

/-- The only document of a stream. A document without a start has no
directives. -/
def document (fuel : Nat) : Parse (Node String) := do
  let root ← match ← peek with
    | .versionDirective .. | .tagDirective .. | .documentStart => do
      let handles ← directives false [] fuel
      expect .documentStart
      if isFrame (← peek) then pure blank
      else read (handles ++ standardHandles) fuel true false
    | _ => read standardHandles fuel true false
  skipDocumentEnds fuel
  expect .streamEnd
  return root

/-- The document that a text holds. A text without one is a node left out. -/
def ofText? (text : String) : Option (Node String) := do
  let tokens ← tokens? text
  if tokens = [.streamEnd] then return blank
  let (root, _) ← (document (4 * tokens.length + 4)).run tokens
  return root

end Node

end TreeSchema.Yaml
