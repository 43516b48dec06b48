import TreeSchema.Proofs.Agreement
import TreeSchema.Proofs.Findings
import TreeSchema.Proofs.History

/-!
# References to listed ids

An id may be any text, but a token is split at its first `#`. So an id that a
registry lists can be referred to when it holds no `#`; any other is looked up
under the part before the `#` (`resolve_listed`).
-/

namespace TreeSchema

namespace Validation

theorem resolve_of_unresolved {registry : Registry} {value root : Value} {token : String}
    {v : Violation} (hmem : v ∈ (registry.validate value root).violations)
    (hfault : v.fault = .unresolvedReference token) :
    Reference.resolve token root registry = none := by
  have hkind : v.kind = .unresolvedReference := by rw [Violation.kind, hfault, Fault.kind]
  obtain ⟨_, _, -, -, hflaw⟩ :=
    (justified_of_mem_check (traced_start value) hmem).unresolved hkind
  obtain ⟨other, hother, -, hresolve⟩ | ⟨hother, -⟩ := hflaw
  · obtain rfl : token = other := by simpa using hfault.symm.trans hother
    exact hresolve
  · simp [hfault] at hother

end Validation

namespace Reference

theorem exists_split {token : String} (h : '#' ∈ token.toList) :
    ∃ before after, token = before ++ "#" ++ after ∧ '#' ∉ before.toList := by
  obtain ⟨before, after, htoken, hbefore⟩ := List.eq_append_cons_of_mem h
  refine ⟨String.ofList before, String.ofList after, ?_, by simpa using hbefore⟩
  rw [← String.toList_inj]
  simp [htoken]

end Reference

open Validation

/-- A listed id that does not start with `#` has a document. The id resolves to
it, whatever the root, just when it holds no `#` or the text before the first one
is the id of a document in which the rest leads to the same. An id that resolves
is never reported as unresolved. -/
theorem resolve_listed (registry : Registry) {id : String} (hlisted : id ∈ registry.ids)
    (hhead : id.toList.head? ≠ some '#') (root : Value) :
    ∃ schema, registry.lookup id = some schema ∧
      (Reference.resolve id root registry = some schema ↔
        '#' ∉ id.toList ∨ ∃ before after document, id = before ++ "#" ++ after ∧
          '#' ∉ before.toList ∧ registry.lookup before = some document ∧
          Reference.follow document after.toList = some schema) ∧
      (Reference.resolve id root registry = some schema → ∀ value,
        ∀ v ∈ (registry.validate value root).violations, v.fault ≠ .unresolvedReference id) := by
  obtain ⟨schema, hschema⟩ := Option.isSome_iff_exists.mp (Registry.mem_ids.mp hlisted)
  refine ⟨schema, hschema, ⟨fun hresolve => ?_, ?_⟩, fun hresolve value v hmem hfault => ?_⟩
  · by_cases hhash : '#' ∈ id.toList
    -- The first `#` is where the token is split, so the split of the text is unique.
    · obtain ⟨before, after, hid, hbefore⟩ := Reference.exists_split hhash
      rw [Reference.resolve_of_head_ne root hhead, hid,
        Reference.split_append after hbefore] at hresolve
      obtain ⟨document, hdocument, hfollow⟩ := Option.bind_eq_some_iff.mp hresolve
      exact .inr ⟨before, after, document, hid, hbefore, hdocument, hfollow⟩
    · exact .inl hhash
  · rintro (hhash | ⟨before, after, document, rfl, hbefore, hdocument, hfollow⟩)
    · rw [Reference.resolve_id root hhash]
      exact hschema
    · rw [Reference.resolve_of_head_ne root hhead, Reference.split_append after hbefore]
      exact Option.bind_eq_some_iff.mpr ⟨document, hdocument, hfollow⟩
  · rw [resolve_of_unresolved hmem hfault] at hresolve
    exact absurd hresolve nofun

theorem resolve_listed_empty_pointer :
    let schema : Value := .object [("type", .string "string")]
    let registry := (Registry.empty.register "address" schema).register "address#" schema
    let root : Value := .object [("$ref", .string "address#")]
    "address#" ∈ registry.ids ∧ "address#".toList.head? ≠ some '#' ∧
      Reference.resolve "address#" root registry = some schema ∧
      ∀ v ∈ (registry.validate .null root).violations, v.fault ≠ .unresolvedReference "address#" := by
  intro schema registry root
  have hlisted : "address#" ∈ registry.ids := by decide
  have hhead : "address#".toList.head? ≠ some '#' := by decide
  obtain ⟨found, hfound, hiff, hreported⟩ := resolve_listed registry hlisted hhead root
  obtain rfl : schema = found := Option.some.inj hfound
  have hresolve : Reference.resolve "address#" root registry = some schema :=
    hiff.mpr (.inr ⟨"address", "", schema, by decide, by decide, rfl, rfl⟩)
  exact ⟨hlisted, hhead, hresolve, hreported hresolve .null⟩

/-- A schema file whose name holds a `#` is listed under that name, but a
reference to the name does not resolve. -/
theorem listed_file_unresolved :
    let files : FileSystem := ⟨fun _ => .ok "true", fun _ => .ok ["c#.json"], fun _ => true⟩
    let registry := Session.registryAfter [⟨files, .loadFile ⟨"c#.json"⟩⟩]
    let root : Value := .object [("$ref", .string "c#.json")]
    registry.ids = ["c#.json"] ∧ registry.lookup "c#.json" = some (.bool true) ∧
      Reference.resolve "c#.json" root registry = none ∧
      (registry.validate .null root).violations = [⟨.root, .unresolvedReference "c#.json"⟩] := by
  intro files registry root
  have hregistry : registry = Registry.empty.register "c#.json" (.bool true) := rfl
  rw [hregistry]
  exact ⟨rfl, rfl, rfl, rfl⟩

end TreeSchema
