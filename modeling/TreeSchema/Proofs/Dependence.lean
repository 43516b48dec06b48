import TreeSchema.Proofs.Agreement

/-!
# What a validation reads of the registry

A root refers to registered documents, and these refer to further ones. No other
document has a part in the validation: two registries that agree on the ids to
which this leads give the same answers (`validate_eq_of_agree`).
-/

namespace TreeSchema

/-- Some reference in the document is to what is registered under `id`, or to a
part of it. -/
def Value.RefersTo (document : Value) (id : String) : Prop :=
  ∃ token ∈ document.stringsUnder "$ref",
    token.toList.head? ≠ some '#' ∧ (Reference.split token).1 = id

namespace Validation

variable {registry registry' : Registry} {root : Value} {ids : Set String}

def Concerns (registry : Registry) (root : Value) (ids : Set String) (document : Value) : Prop :=
  document = root ∨ ∃ id ∈ ids, registry.lookup id = some document

theorem shared_of_agree (hagree : ∀ id ∈ ids, registry.lookup id = registry'.lookup id)
    (hclosed : ∀ document, Concerns registry root ids document →
      ∀ id, document.RefersTo id → id ∈ ids) :
    Shared ⟨root, registry⟩ ⟨root, registry'⟩ (Concerns registry root ids) where
  resolve {document token} hdocument htoken := by
    show Reference.resolve token root registry = Reference.resolve token root registry'
    by_cases hhead : token.toList.head? = some '#'
    · rw [Reference.resolve_of_head _ _ hhead, Reference.resolve_of_head _ _ hhead]
    · have hid := hclosed document hdocument _ ⟨token, htoken, hhead, rfl⟩
      rw [Reference.resolve_of_head_ne _ hhead, Reference.resolve_of_head_ne _ hhead, hagree _ hid]
  target {document target token} hdocument htoken hresolve := by
    by_cases hhead : token.toList.head? = some '#'
    · rw [Reference.resolve_of_head _ _ hhead] at hresolve
      exact ⟨root, .inl rfl, Reference.follow_within hresolve⟩
    · rw [Reference.resolve_of_head_ne _ hhead] at hresolve
      obtain ⟨named, hnamed, hfollow⟩ := Option.bind_eq_some_iff.mp hresolve
      have hid := hclosed document hdocument _ ⟨token, htoken, hhead, rfl⟩
      exact ⟨named, .inr ⟨_, hid, hnamed⟩, Reference.follow_within hfollow⟩

theorem validate_eq_of_closed (hagree : ∀ id ∈ ids, registry.lookup id = registry'.lookup id)
    (hclosed : ∀ document, Concerns registry root ids document →
      ∀ id, document.RefersTo id → id ∈ ids) (value : Value) :
    registry.validate value root = registry'.validate value root :=
  (shared_of_agree hagree hclosed).corresponding.validate_eq (.inl rfl) .refl value

end Validation

open Validation

/-- Let two registries agree on a set of ids. If the root and the documents
under these ids refer to no id outside the set, every value gets the same
violations with both, in the same order. So where nothing refers to an id, it
does not matter what is registered under it. -/
theorem validate_eq_of_agree (registry registry' : Registry) (root : Value) :
    (∀ ids : Set String, (∀ id ∈ ids, registry.lookup id = registry'.lookup id) →
      (∀ document, Concerns registry root ids document →
        ∀ id, document.RefersTo id → id ∈ ids) →
      ∀ value, registry.validate value root = registry'.validate value root) ∧
    ∀ id, (∀ other, other ≠ id → registry.lookup other = registry'.lookup other) →
      (∀ document, Concerns registry root {other | other ≠ id} document → ¬document.RefersTo id) →
      ∀ value, registry.validate value root = registry'.validate value root := by
  refine ⟨fun ids hagree hclosed => validate_eq_of_closed hagree hclosed,
    fun id hagree hunused => validate_eq_of_closed hagree ?_⟩
  rintro document hdocument other hrefers rfl
  exact hunused document hdocument hrefers

theorem validate_eq_of_agree_spare :
    let name : Value := .object [("parts", .object [("first", .object [("type", .string "string")])])]
    let user : Value := .object [("properties",
      .object [("name", .object [("$ref", .string "name#/parts/first")])])]
    let root : Value := .object [("$ref", .string "user")]
    let registry := (Registry.empty.register "name" name).register "user" user
    let registry' := registry.register "spare" user
    let ids : Set String := {"name", "user"}
    let value : Value := .object [("name", .null)]
    (∀ id ∈ ids, registry.lookup id = registry'.lookup id) ∧
      (∀ document, Concerns registry root ids document → ∀ id, document.RefersTo id → id ∈ ids) ∧
      (∀ document, Concerns registry root {other | other ≠ "spare"} document →
        ¬document.RefersTo "spare") ∧
      registry.validate value root = registry'.validate value root ∧
      (registry'.validate value root).violations.length = 1 := by
  intro name user root registry registry' ids value
  have hagree : ∀ other, other ≠ "spare" → registry.lookup other = registry'.lookup other :=
    fun other hother => by simp only [registry', Registry.lookup_register, if_neg hother]
  have hrefers {set : Set String} {document : Value} {id : String}
      (hdocument : Concerns registry root set document) (hrefers : document.RefersTo id) :
      id ∈ ids := by
    obtain ⟨token, htoken, -, rfl⟩ := hrefers
    obtain rfl | ⟨other, -, hlookup⟩ := hdocument
    · obtain rfl : token = "user" := List.mem_singleton.mp htoken
      exact .inr rfl
    · simp only [registry, Registry.lookup_register, Registry.lookup_empty] at hlookup
      split at hlookup
      · obtain rfl : user = document := Option.some.inj hlookup
        obtain rfl : token = "name#/parts/first" := List.mem_singleton.mp htoken
        exact .inl rfl
      · split at hlookup
        · obtain rfl : name = document := Option.some.inj hlookup
          exact absurd htoken List.not_mem_nil
        · exact absurd hlookup (by simp)
  have hset : ∀ id ∈ ids, registry.lookup id = registry'.lookup id := by
    rintro id (rfl | rfl) <;> exact hagree _ (by decide)
  have hunused : ∀ document, Concerns registry root {other | other ≠ "spare"} document →
      ¬document.RefersTo "spare" :=
    fun document hdocument hspare => absurd (hrefers hdocument hspare) (by simp [ids])
  obtain ⟨-, hone⟩ := validate_eq_of_agree registry registry' root
  exact ⟨hset, fun _ hdocument _ => hrefers hdocument, hunused, hone "spare" hagree hunused value,
    by decide⟩

end TreeSchema
