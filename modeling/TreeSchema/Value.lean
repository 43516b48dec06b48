import TreeSchema.Assoc
import TreeSchema.Number

/-!
# Value trees

Documents and schemas are both trees of the JSON data model. The members of an
object are an association list sorted by key (`TreeSchema.Assoc`);
`Value.ofPairs` builds such a list from pairs in any order.
-/

namespace TreeSchema

inductive Value where
  | null
  | bool (b : Bool)
  | number (n : Number)
  | string (s : String)
  | array (items : List Value)
  | object (members : List (String × Value))

/-- The members of an object, in key order. -/
abbrev Members := List (String × Value)

namespace Value

/-- An object from pairs in any order; a later pair wins. -/
def ofPairs (pairs : List (String × Value)) : Value := .object (Assoc.ofList pairs)

def ofInt (i : Int) : Value := .number (.integer i)

def asString? : Value → Option String
  | .string s => some s
  | _ => none

def asBool? : Value → Option Bool
  | .bool b => some b
  | _ => none

def asNumber? : Value → Option Number
  | .number n => some n
  | _ => none

def asItems? : Value → Option (List Value)
  | .array items => some items
  | _ => none

def asMembers? : Value → Option Members
  | .object members => some members
  | _ => none

def member? (value : Value) (key : String) : Option Value :=
  value.asMembers?.bind (·.lookup key)

-- -----------------------------------------------------------------------------
-- Size and content

mutual
/-- Nodes on a longest path from the root to a leaf. -/
def height : Value → Nat
  | .array items => heightOfItems items + 1
  | .object members => heightOfMembers members + 1
  | _ => 1

def heightOfItems : List Value → Nat
  | [] => 0
  | item :: rest => max item.height (heightOfItems rest)

def heightOfMembers : List (String × Value) → Nat
  | [] => 0
  | (_, child) :: rest => max child.height (heightOfMembers rest)
end

mutual
/-- The strings that members named `key` hold, anywhere in the tree. -/
def stringsUnder (key : String) : Value → List String
  | .array items => stringsUnderItems key items
  | .object members => stringsUnderMembers key members
  | _ => []

def stringsUnderItems (key : String) : List Value → List String
  | [] => []
  | item :: rest => item.stringsUnder key ++ stringsUnderItems key rest

def stringsUnderMembers (key : String) : List (String × Value) → List String
  | [] => []
  | (name, child) :: rest =>
    (if name = key then child.asString?.toList else []) ++
      child.stringsUnder key ++ stringsUnderMembers key rest
end

end Value

end TreeSchema
