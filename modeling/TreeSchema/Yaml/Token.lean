/-!
# Tokens

A text is a sequence of tokens. Indentation appears as explicit starts and ends
of block collections, and a key that is recognised by the colon behind it has
its key token before it.
-/

namespace TreeSchema.Yaml

/-- How a scalar is written, as far as its meaning depends on it. -/
inductive Style where
  | plain
  | quoted
  deriving DecidableEq

/-- A tag as written: a handle and what follows it. A tag without a handle is
complete. -/
structure Tag where
  handle : String
  suffix : String
  deriving DecidableEq

inductive Token where
  | versionDirective (major minor : Nat)
  | tagDirective (handle replacement : String)
  | documentStart
  | documentEnd
  | blockSequenceStart
  | blockMappingStart
  | blockEnd
  | flowSequenceStart
  | flowSequenceEnd
  | flowMappingStart
  | flowMappingEnd
  | blockEntry
  | flowEntry
  | key
  | value
  | alias (name : String)
  | anchor (name : String)
  | tag (tag : Tag)
  | scalar (text : String) (style : Style)
  | streamEnd
  deriving DecidableEq

end TreeSchema.Yaml
