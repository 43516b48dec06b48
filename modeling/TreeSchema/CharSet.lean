/-!
# Sets of characters

A set of code points is the ascending list of the points where membership
changes: the first point is the first member, the second the next nonmember,
and so on. Union, intersection, difference and symmetric difference are one
merge of two such lists, `CharSet.combine`.
-/

namespace TreeSchema

structure CharSet where
  turns : List Nat
  deriving DecidableEq

namespace CharSet

/-- Whether membership holds at `c`, given whether it holds before the turns. -/
def holdsAfter (c : Nat) : Bool → List Nat → Bool
  | inside, [] => inside
  | inside, turn :: rest => if c < turn then inside else holdsAfter c (!inside) rest

def containsPoint (set : CharSet) (c : Nat) : Bool := holdsAfter c false set.turns

def contains (set : CharSet) (c : Char) : Bool := set.containsPoint c.toNat

def empty : CharSet := ⟨[]⟩

def limit : Nat := 0x110000

def all : CharSet := ⟨[0, limit]⟩

def range (first last : Nat) : CharSet := if first ≤ last then ⟨[first, last + 1]⟩ else empty

def single (c : Char) : CharSet := range c.toNat c.toNat

/-- The turns of `op` applied to two memberships, from the turns of both. The
flags tell whether a point is in the left set, the right set and the result. -/
def mergeTurns (op : Bool → Bool → Bool) : Bool → Bool → Bool → List Nat → List Nat → List Nat
  | _, _, _, [], [] => []
  | left, right, inside, x :: xs, [] =>
    emit (op (!left) right) inside x (mergeTurns op (!left) right (op (!left) right) xs [])
  | left, right, inside, [], y :: ys =>
    emit (op left (!right)) inside y (mergeTurns op left (!right) (op left (!right)) [] ys)
  | left, right, inside, x :: xs, y :: ys =>
    if x < y then
      emit (op (!left) right) inside x
        (mergeTurns op (!left) right (op (!left) right) xs (y :: ys))
    else if y < x then
      emit (op left (!right)) inside y
        (mergeTurns op left (!right) (op left (!right)) (x :: xs) ys)
    else
      emit (op (!left) (!right)) inside x
        (mergeTurns op (!left) (!right) (op (!left) (!right)) xs ys)
termination_by _ _ _ xs ys => xs.length + ys.length
where
  /-- A turn stands only where membership changes. -/
  emit (now before : Bool) (turn : Nat) (rest : List Nat) : List Nat :=
    if now = before then rest else turn :: rest

/-- The points whose memberships in two sets satisfy `op`, which is false when
both are. -/
def combine (op : Bool → Bool → Bool) (xs ys : CharSet) : CharSet :=
  ⟨mergeTurns op false false false xs.turns ys.turns⟩

def union : CharSet → CharSet → CharSet := combine (· || ·)
def inter : CharSet → CharSet → CharSet := combine (· && ·)
def diff : CharSet → CharSet → CharSet := combine (fun x y => x && !y)
def symmDiff : CharSet → CharSet → CharSet := combine (· != ·)

def complement (set : CharSet) : CharSet := diff all set

def unions (sets : List CharSet) : CharSet := sets.foldl union empty

/-- The ranges of a set, first and last point of each. -/
def ranges (set : CharSet) : List (Nat × Nat) := pairUp set.turns
where
  pairUp : List Nat → List (Nat × Nat)
    | first :: next :: rest => (first, next - 1) :: pairUp rest
    | [first] => [(first, limit - 1)]
    | [] => []

def isEmpty (set : CharSet) : Bool := set.turns.isEmpty

def isAscii (set : CharSet) : Bool := set.turns.all (· ≤ 0x80)

end CharSet

end TreeSchema
