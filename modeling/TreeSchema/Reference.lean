import TreeSchema.Registry
import TreeSchema.Text

/-!
# References

A reference token names a schema. `#` is the root of the validation, `#/a/b`
walks from there key by key, `id` is a registered document and `id#/a/b` walks
inside one. In a key, `~1` stands for `/` and `~0` for `~`. A walk passes
through objects only.
-/

namespace TreeSchema

namespace Reference

def unescape : List Char → List Char
  | '~' :: '1' :: rest => '/' :: unescape rest
  | '~' :: '0' :: rest => '~' :: unescape rest
  | c :: rest => c :: unescape rest
  | [] => []

/-- The keys that a pointer walks through. The empty pointer walks nowhere;
any other starts with `/`. -/
def pointerKeys? : List Char → Option (List String)
  | [] => some []
  | '/' :: rest => some ((Text.split '/' rest).map (String.ofList ∘ unescape))
  | _ :: _ => none

/-- The value reached from `document` by taking the member under each key. -/
def walk (document : Value) : List String → Option Value
  | [] => some document
  | key :: keys => (document.member? key).bind (walk · keys)

def follow (document : Value) (pointer : List Char) : Option Value :=
  (pointerKeys? pointer).bind (walk document)

/-- The document id of a token and the pointer into that document, split at
the first `#`. -/
def split (token : String) : String × List Char :=
  (String.ofList (token.toList.takeWhile (· ≠ '#')), (token.toList.dropWhile (· ≠ '#')).drop 1)

/-- The schema that a token names. A token that starts with `#` points into
`root`, any other into the registry. -/
def resolve (token : String) (root : Value) (registry : Registry) : Option Value :=
  let (id, pointer) := split token
  match token.toList with
  | '#' :: _ => follow root pointer
  | _ => (registry.lookup id).bind (follow · pointer)

end Reference

/-- The tokens being followed on one branch of a validation, innermost first.
Branches extend their parent's trail separately, so siblings do not see each
other's tokens. -/
structure Trail where
  tokens : List String

namespace Trail

def empty : Trail := ⟨[]⟩

def contains (trail : Trail) (token : String) : Bool := trail.tokens.contains token

def extend (trail : Trail) (token : String) : Trail := ⟨token :: trail.tokens⟩

theorem contains_extend (trail : Trail) (token other : String) :
    (trail.extend token).contains other = (other == token || trail.contains other) :=
  List.contains_cons

end Trail

end TreeSchema
