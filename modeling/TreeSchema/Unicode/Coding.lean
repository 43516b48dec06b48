import TreeSchema.CharSet

/-!
# Compact tables

Character tables are text: numbers written in base 32, the least significant
digit first, one character a digit. A digit that is not the last of its number
is marked. Space between digits means nothing. A set is the list of distances
between its turns; a partition of the code points is a list of runs, the length
of each with its class.
-/

namespace TreeSchema.Unicode

/-- The value of a digit, with 32 added when more digits follow. -/
def digitValue (c : Char) : Nat :=
  if 'A' ≤ c ∧ c ≤ 'Z' then c.toNat - 'A'.toNat
  else if 'a' ≤ c ∧ c ≤ 'z' then c.toNat - 'a'.toNat + 26
  else if '0' ≤ c ∧ c ≤ '9' then c.toNat - '0'.toNat + 52
  else if c = '-' then 62
  else 63

/-- The numbers that a text writes; `value` and `place` describe the digits
read of the current one. -/
def readNumbers (value place : Nat) : List Char → List Nat
  | [] => []
  | c :: rest =>
    let digit := digitValue c
    if digit < 32 then (value + digit * place) :: readNumbers 0 1 rest
    else readNumbers (value + (digit - 32) * place) (place * 32) rest

def numbers (text : String) : List Nat :=
  readNumbers 0 1 (text.toList.filter fun c => !c.isWhitespace)

/-- The set whose turns lie at the given distances. -/
def setOfGaps (text : String) : CharSet := ⟨turns 0 (numbers text)⟩
where
  turns (start : Nat) : List Nat → List Nat
    | [] => []
    | gap :: rest => (start + gap) :: turns (start + gap) rest

/-- The points of the runs whose class is selected. -/
def setOfRuns (selected : Nat → Bool) (text : String) : CharSet :=
  ⟨turns false 0 (numbers text)⟩
where
  turns (inside : Bool) (start : Nat) : List Nat → List Nat
    | length :: index :: rest =>
      if selected index = inside then turns inside (start + length) rest
      else start :: turns (selected index) (start + length) rest
    | _ => if inside then [CharSet.limit] else []

end TreeSchema.Unicode
