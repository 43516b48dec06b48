import TreeSchema.Value

/-!
# Equality of values

`Value.equal` compares numbers by value, arrays position by position and
objects by their key sets and the values under each key. An array never equals
an object, and `null` equals only `null`.
-/

namespace TreeSchema.Value

mutual
def equal : Value → Value → Bool
  | .null, .null => true
  | .bool a, .bool b => a == b
  | .number a, .number b => a.equal b
  | .string a, .string b => a == b
  | .array xs, .array ys => equalItems xs ys
  | .object xs, .object ys => xs.length == ys.length && equalMembers xs ys
  | _, _ => false

def equalItems : List Value → List Value → Bool
  | [], [] => true
  | x :: xs, y :: ys => equal x y && equalItems xs ys
  | _, _ => false

/-- Every member on the left has an equal one on the right. -/
def equalMembers : List (String × Value) → List (String × Value) → Bool
  | [], _ => true
  | (key, x) :: rest, ys =>
    (match ys.lookup key with
      | some y => equal x y
      | none => false) && equalMembers rest ys
end

end TreeSchema.Value
