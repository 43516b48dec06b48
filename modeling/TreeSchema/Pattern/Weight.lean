import TreeSchema.Pattern.Matcher

/-!
# Weight of a pattern

Patterns whose automaton would be too large are refused. The weight of a
matcher is the room of that automaton in bytes: counted repetitions stand for
copies of their body, and a set of characters for the byte sequences that encode
its members in UTF-8.
-/

namespace TreeSchema.Pattern

-- Powers are the core ones, whatever else is in scope.
attribute [local instance (high)] instPowNat

namespace Encoding

/-- The number of bytes of a code point in UTF-8. -/
def byteCount (c : Nat) : Nat :=
  if c < 0x80 then 1 else if c < 0x800 then 2 else if c < 0x10000 then 3 else 4

/-- The bytes of a code point, with the given number of continuation bytes. -/
def bytes (continuations c : Nat) : List Nat :=
  let lead := match continuations with
    | 0 => c
    | 1 => 0xC0 + c / 64
    | 2 => 0xE0 + c / 64 ^ (2 : Nat)
    | _ => 0xF0 + c / 64 ^ (3 : Nat)
  lead :: (List.range continuations).map fun i => 0x80 + c / 64 ^ (continuations - 1 - i) % 64

abbrev Sequence := List (Nat × Nat)

/-- Cuts a range of code points of one encoded length so that each piece is a
product of byte ranges. `level` counts the continuation bytes that are still
free. -/
def cut (continuations : Nat) : Nat → Nat → Nat → List Sequence
  | 0, first, last => [(bytes continuations first).zip (bytes continuations last)]
  | level + 1, first, last =>
    let block := 64 ^ (level + 1)
    if first / block = last / block then cut continuations level first last
    else
      let head := if first % block = 0 then first else (first / block + 1) * block
      let tail := if last % block = block - 1 then last + 1 else last / block * block
      (if first < head then cut continuations level first (head - 1) else []) ++
      (if head < tail then [(bytes continuations head).zip (bytes continuations (tail - 1))]
        else []) ++
      (if tail ≤ last then cut continuations level tail last else [])

/-- The ranges of code points of each encoded length, without surrogates. -/
def lengths : List (Nat × Nat) :=
  [(0, 0x7F), (0x80, 0x7FF), (0x800, 0xD7FF), (0xE000, 0xFFFF), (0x10000, 0x10FFFF)]

def sequences (set : CharSet) : List Sequence :=
  set.ranges.flatMap fun (first, last) => lengths.flatMap fun (low, high) =>
    let first := max first low
    let last := min last high
    if first ≤ last then
      let continuations := byteCount first - 1
      cut continuations continuations first last
    else []

/-- Nodes of the tree of sequences, which share their common beginnings with the
sequence before. -/
def nodes (previous : Sequence) : List Sequence → Nat
  | [] => 0
  | next :: rest =>
    let shared := ((previous.zip next).takeWhile fun (a, b) => a = b).length
    next.length - shared + nodes next rest

end Encoding

def stateWeight : Nat := 32

def greatestWeight : Nat := 10 * 2 ^ (20 : Nat)

def setWeight (set : CharSet) : Nat :=
  match set.ranges with
  | [] => stateWeight
  | [(first, last)] =>
    if first = last then Encoding.byteCount first * stateWeight else many set
  | _ => many set
where
  many (set : CharSet) : Nat :=
    if set.isAscii then 2 * stateWeight + 8 * set.ranges.length
    else
      let sequences := Encoding.sequences set
      (2 + Encoding.nodes [] sequences) * stateWeight + 4 * sequences.length

namespace Matcher

variable {Move Stay : Type}

def isStill : Matcher Move Stay → Bool
  | .nothing | .stay _ => true
  | .move _ => false
  | .seq first second => first.isStill && second.isStill
  | .alt left right => left.isStill && right.isStill
  | .repetition _ most body => most == some 0 || body.isStill

/-- Repeating a matcher that never moves is the same as matching it once. -/
def weight : Matcher CharSet Test → Nat
  | .nothing | .stay _ => stateWeight
  | .move set => setWeight set
  | .seq first second => first.weight + second.weight
  | .alt left right => left.weight + right.weight + stateWeight
  | .repetition least most body =>
    let once := body.weight
    let least := if body.isStill then min least 1 else least
    let most := if body.isStill then some 1 else most
    match most with
    | some most => least * once + (most - least) * (once + stateWeight + 8) + stateWeight
    | none => max least 1 * once + 2 * stateWeight

end Matcher

end TreeSchema.Pattern
