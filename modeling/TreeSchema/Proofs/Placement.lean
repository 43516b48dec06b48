import TreeSchema.Proofs.Findings

/-!
# Violations stand at values

`whole.At location part`: the steps of a location lead from a value to a part of
it. The location of a frame always leads to its value, so a violation stands at
a part of the validated value, or one step below an object that lacks a required
key: `violations_located`.
-/

namespace TreeSchema

/-- The steps of the location lead from `whole` to the value. -/
inductive Value.At (whole : Value) : Location → Value → Prop
  | root : At whole .root whole
  | key {parent : Location} {members : Members} {name : String} {child : Value} :
      At whole parent (.object members) → (name, child) ∈ members →
      At whole (.key parent name) child
  | index {parent : Location} {items : List Value} {position : Nat} {item : Value} :
      At whole parent (.array items) → items[position]? = some item →
      At whole (.index parent position) item

namespace Value

theorem At.trans {whole part inner : Value} {base location : Location} (h : whole.At base part)
    (h' : part.At location inner) : whole.At (base.append location) inner := by
  induction h' with
  | root => exact h
  | key _ hmem ih => exact .key ih hmem
  | index _ hitem ih => exact .index ih hitem

theorem At.within {whole part : Value} {location : Location} (h : whole.At location part) :
    part.Within whole := by
  induction h with
  | root => exact .refl
  | key _ hmem ih => exact .trans (.member hmem .refl) ih
  | index _ hitem ih => exact .trans (.item (List.mem_of_getElem? hitem) .refl) ih

end Value

namespace Validation

/-- The violation stands at a part of `whole`, or names a required key that an
object in `whole` lacks. -/
def Located (whole : Value) (v : Violation) : Prop :=
  (∃ part, whole.At v.location part) ∨
    v.kind = .constraint ∧ v.message = "Required property missing" ∧
      ∃ (parent : Location) (key : String) (members : Members),
        v.location = .key parent key ∧ whole.At parent (.object members) ∧
          members.lookup key = none

variable {scope : Scope} {whole : Value} {f g : Frame}

theorem Frame.Offers.placed {value : Value} {location : Location}
    (hoffers : f.Offers value location) (h : whole.At f.location f.value) :
    whole.At location value := by
  cases hoffers with
  | itself => exact h
  | member hvalue hmem => exact .key (hvalue ▸ h) hmem
  | item hvalue hget => exact .index (hvalue ▸ h) hget

theorem Calls.placed (hcall : Calls scope f g) (h : whole.At f.location f.value) :
    whole.At g.location g.value := by
  cases hcall with
  | reference => exact h
  | keyword _ _ _ hoffers => exact hoffers.placed h

theorem located_of_mem_check {bound : Nat} {v : Violation} (h : whole.At f.location f.value)
    (hv : v ∈ check scope bound f) : Located whole v := by
  induction bound generalizing f with
  | zero => exact absurd hv List.not_mem_nil
  | succ bound ih =>
    have hhere (fault : Fault) : Located whole (f.violation fault) := .inl ⟨f.value, h⟩
    cases cause_of_mem_step hv with
    | call hcall hmem => exact ih (hcall.placed h) hmem
    | @missing members key hvalue hlookup =>
      exact .inr ⟨rfl, rfl, f.location, key, members, rfl, hvalue ▸ h, hlookup⟩
    | @notAllowed members key child hvalue hmem => exact .inl ⟨child, .key (hvalue ▸ h) hmem⟩
    | _ => exact hhere _

/-- The steps of each violation's location lead from the value to a part of it,
save for a missing property, where they lead to an object in the value and on to
a key that it lacks. -/
theorem violations_located (registry : Registry) (value root : Value) :
    ∀ v ∈ (registry.validate value root).violations, Located value v :=
  fun _ hmem => located_of_mem_check .root hmem

theorem violations_located_missing :
    let root : Value := .object [("properties", .object [("user", .object [("$ref", .string "named")])])]
    let named : Value := .object [("required", .array [.string "name"])]
    let value : Value := .object [("user", .object [])]
    let missing : Violation := ⟨.key (.key .root "user") "name", .propertyMissing⟩
    missing ∈ ((Registry.empty.register "named" named).validate value root).violations ∧
      Located value missing := by
  intro root named value missing
  have hmem : missing ∈ ((Registry.empty.register "named" named).validate value root).violations := by
    have hviolations :
        ((Registry.empty.register "named" named).validate value root).violations = [missing] := by
      rfl
    rw [hviolations]
    exact List.mem_singleton_self missing
  exact ⟨hmem, violations_located _ value root missing hmem⟩

end Validation

end TreeSchema
