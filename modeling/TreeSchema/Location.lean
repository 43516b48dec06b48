/-!
# Locations

Where a value stands inside the validated tree. A key is written `.key` and a
position `[index]`, so `.user.tags[2]` is the third tag of the user; the root
is the empty text.
-/

namespace TreeSchema

inductive Location where
  | root
  | key (parent : Location) (name : String)
  | index (parent : Location) (position : Nat)
  deriving DecidableEq

namespace Location

def isRoot : Location → Bool
  | .root => true
  | _ => false

def text : Location → String
  | .root => ""
  | .key parent name => parent.text ++ "." ++ name
  | .index parent position => parent.text ++ "[" ++ toString position ++ "]"

/-- The location reached from `base` by the steps of another one. -/
def append (base : Location) : Location → Location
  | .root => base
  | .key parent name => .key (base.append parent) name
  | .index parent position => .index (base.append parent) position

theorem append_assoc (base middle location : Location) :
    (base.append middle).append location = base.append (middle.append location) := by
  induction location with
  | root => rfl
  | key parent name ih => exact congrArg (Location.key · name) ih
  | index parent position ih => exact congrArg (Location.index · position) ih

theorem text_append (base location : Location) :
    (base.append location).text = base.text ++ location.text := by
  induction location with
  | root => exact String.append_empty.symm
  | key parent name ih => simp only [append, text, ih, String.append_assoc]
  | index parent position ih => simp only [append, text, ih, String.append_assoc]

end Location

end TreeSchema
