import TreeSchema.Value

/-!
# Registry

Schema documents stored by id. Registering an id again replaces its document,
and ids are listed in ascending order.
-/

namespace TreeSchema

structure Registry where
  documents : List (String × Value)
  sorted : Assoc.Sorted documents

namespace Registry

def empty : Registry := ⟨[], .nil⟩

def register (registry : Registry) (id : String) (schema : Value) : Registry :=
  ⟨Assoc.insert id schema registry.documents, Assoc.sorted_insert id schema registry.sorted⟩

def ofList (pairs : List (String × Value)) : Registry :=
  pairs.foldl (fun registry pair => registry.register pair.1 pair.2) empty

def lookup (registry : Registry) (id : String) : Option Value := registry.documents.lookup id

def contains (registry : Registry) (id : String) : Bool := (registry.lookup id).isSome

def ids (registry : Registry) : List String := Assoc.keys registry.documents

def size (registry : Registry) : Nat := registry.documents.length

def isEmpty (registry : Registry) : Bool := registry.documents.isEmpty

theorem lookup_empty (id : String) : empty.lookup id = none := rfl

theorem lookup_register (registry : Registry) (id other : String) (schema : Value) :
    (registry.register id schema).lookup other =
      if other = id then some schema else registry.lookup other :=
  Assoc.lookup_insert id other schema registry.documents

end Registry

end TreeSchema
