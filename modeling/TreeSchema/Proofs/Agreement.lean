import Mathlib.Data.List.TakeWhile
import TreeSchema.Proofs.Nesting
import TreeSchema.Proofs.Reordering

/-!
# Validations that share their documents

Two validations may start from different roots and with different trails. Where
they never leave documents whose references lead both to schemas with the same
keywords, they find the same (`Corresponding.check_eq`). So a registered schema
answers alike as the root of a validation and behind a reference to it, as long
as nothing refers back to the root or to the reference itself:
`validateRegistered_eq_validate_reference`.
-/

namespace TreeSchema.Validation

/-- A step cannot tell the schemas apart: they are equal, or nodes that hold the
same under each keyword. -/
inductive Indistinct : Value → Value → Prop
  | refl {schema : Value} : Indistinct schema schema
  | node {node node' : Members} :
      (∀ keyword ∈ keywords, node.lookup keyword = node'.lookup keyword) →
      Indistinct (.object node) (.object node')

theorem Indistinct.leaf_or_object {schema schema' : Value} (h : Indistinct schema schema') :
    (schema = schema' ∧ ∀ node, schema ≠ .object node) ∨
      ∃ node node', schema = .object node ∧ schema' = .object node' ∧
        ∀ keyword ∈ keywords, node.lookup keyword = node'.lookup keyword := by
  cases h with
  | refl =>
    cases schema with
    | object node => exact .inr ⟨node, node, rfl, rfl, fun _ _ => rfl⟩
    | _ => exact .inl ⟨rfl, nofun⟩
  | @node node node' hlookup => exact .inr ⟨node, node', rfl, rfl, hlookup⟩

theorem indistinct_of_eq {target? target'? : Option Value} (h : target? = target'?) :
    Option.Rel Indistinct target? target'? := by
  subst h
  cases target? with
  | none => exact .none
  | some target => exact .some .refl

/-- Both scopes resolve the references in some documents to schemas that a step
cannot tell apart, and the first scope stays in those documents. -/
structure Corresponding (scope scope' : Scope) (documents : Value → Prop) : Prop where
  resolve {document : Value} {token : String} : documents document →
    token ∈ document.stringsUnder "$ref" →
    Option.Rel Indistinct (Reference.resolve token scope.root scope.registry)
      (Reference.resolve token scope'.root scope'.registry)
  target {document target : Value} {token : String} : documents document →
    token ∈ document.stringsUnder "$ref" →
    Reference.resolve token scope.root scope.registry = some target →
    ∃ document', documents document' ∧ target.Within document'

structure Shared (scope scope' : Scope) (documents : Value → Prop) : Prop where
  resolve {document : Value} {token : String} : documents document →
    token ∈ document.stringsUnder "$ref" →
    Reference.resolve token scope.root scope.registry =
      Reference.resolve token scope'.root scope'.registry
  target {document target : Value} {token : String} : documents document →
    token ∈ document.stringsUnder "$ref" →
    Reference.resolve token scope.root scope.registry = some target →
    ∃ document', documents document' ∧ target.Within document'

/-- Two frames about the same value, with schemas that a step cannot tell apart,
whose trails differ only in tokens that the documents do not hold. -/
structure Parallel (documents : Value → Prop) (f f' : Frame) : Prop where
  value : f.value = f'.value
  location : f.location = f'.location
  schema : Indistinct f.schema f'.schema
  within : ∃ document, documents document ∧ f.schema.Within document
  trail {document : Value} {token : String} : documents document →
    token ∈ document.stringsUnder "$ref" → f.trail.contains token = f'.trail.contains token

structure Alongside (documents : Value → Prop) (f f' : Frame) : Prop where
  value : f.value = f'.value
  location : f.location = f'.location
  schema : f.schema = f'.schema
  within : ∃ document, documents document ∧ f.schema.Within document
  trail {document : Value} {token : String} : documents document →
    token ∈ document.stringsUnder "$ref" → f.trail.contains token = f'.trail.contains token

variable {scope scope' : Scope} {documents : Value → Prop} {f f' : Frame} {node : Members}

theorem Shared.corresponding (h : Shared scope scope' documents) :
    Corresponding scope scope' documents :=
  ⟨fun hdocument hmem => indistinct_of_eq (h.resolve hdocument hmem), h.target⟩

theorem Alongside.parallel (h : Alongside documents f f') : Parallel documents f f' :=
  ⟨h.value, h.location, h.schema ▸ .refl, h.within, h.trail⟩

namespace Parallel

theorem reference (h : Parallel documents f f') {token : String}
    (hschema : f.schema = .object node) (href : node.lookup "$ref" = some (.string token)) :
    ∃ document, documents document ∧ token ∈ document.stringsUnder "$ref" := by
  obtain ⟨document, hdocument, hwithin⟩ := h.within
  rw [hschema] at hwithin
  have hmem := Value.mem_stringsUnder (mem_of_lookup href)
  exact ⟨document, hdocument, hwithin.stringsUnder_subset hmem⟩

theorem subschema (h : Parallel documents f f') {schema value : Value} {location : Location}
    (hschema : f.schema = .object node) (hsub : node.Subschema schema) :
    Parallel documents ⟨value, location, schema, f.trail⟩ ⟨value, location, schema, f'.trail⟩ := by
  obtain ⟨document, hdocument, hwithin⟩ := h.within
  rw [hschema] at hwithin
  exact ⟨rfl, rfl, .refl, ⟨document, hdocument, hsub.within.1.trans hwithin⟩, h.trail⟩

theorem target (h : Parallel documents f f') {token : String} {target target' : Value}
    (htargets : Indistinct target target')
    (hwithin : ∃ document, documents document ∧ target.Within document) :
    Parallel documents { f with schema := target, trail := f.trail.extend token }
      { f' with schema := target', trail := f'.trail.extend token } where
  value := h.value
  location := h.location
  schema := htargets
  within := hwithin
  trail hdocument hmem := by
    simp only [Trail.contains_extend, h.trail hdocument hmem]

theorem violation (h : Parallel documents f f') : f.violation = f'.violation := by
  funext fault
  simp only [Frame.violation, h.location]

end Parallel

theorem Corresponding.check_eq (hscopes : Corresponding scope scope' documents) {bound : Nat}
    (h : Parallel documents f f') : check scope bound f = check scope' bound f' := by
  induction bound generalizing f f' with
  | zero => rfl
  | succ bound ih =>
    show step scope (check scope bound) f = step scope' (check scope' bound) f'
    obtain ⟨hequal, hleaf⟩ | ⟨node, node', hschema, hschema', hlookup⟩ := h.schema.leaf_or_object
    · exact step_leaf hleaf hequal h.location
    cases href : node.lookup "$ref" with
    | none =>
      have hnone' : node'.lookup "$ref" = none := hlookup "$ref" (by decide) ▸ href
      rw [step_keywords hschema href, step_keywords hschema' hnone',
        ← checkKeywords_of_lookup hlookup]
      refine checkKeywords_congr (R := fun schema schema' =>
        schema = schema' ∧ Members.Subschema node schema) ?_
        (Members.related_refl fun _ hsub => ⟨rfl, hsub⟩)
      refine ⟨h.value, h.location, fun hR _ => by rw [hR.1], ?_⟩
      rintro schema _ value location ⟨rfl, hsub⟩ -
      exact ih (h.subschema hschema hsub)
    | some reference =>
      have href' : node'.lookup "$ref" = some reference := hlookup "$ref" (by decide) ▸ href
      rw [step_reference hschema href, step_reference hschema' href']
      cases reference with
      | string token =>
        obtain ⟨document, hdocument, hmem⟩ := h.reference hschema href
        simp only [followReference, h.trail hdocument hmem, h.violation]
        split
        · rfl
        · have htargets := hscopes.resolve hdocument hmem
          generalize hresolve : Reference.resolve token scope.root scope.registry = target? at *
          generalize Reference.resolve token scope'.root scope'.registry = target'? at *
          cases htargets with
          | none => rfl
          | some htargets =>
            exact ih (h.target htargets (hscopes.target hdocument hmem hresolve))
      | _ => simp only [followReference, h.violation]

theorem Shared.check_eq (hshared : Shared scope scope' documents) {bound : Nat}
    (h : Alongside documents f f') : check scope bound f = check scope' bound f' :=
  hshared.corresponding.check_eq h.parallel

theorem Corresponding.validate_eq {registry registry' : Registry} {root root' : Value}
    (h : Corresponding ⟨root, registry⟩ ⟨root', registry'⟩ documents) (hroot : documents root)
    (hroots : Indistinct root root') (value : Value) :
    registry.validate value root = registry'.validate value root' := by
  let scope : Scope := ⟨root, registry⟩
  let scope' : Scope := ⟨root', registry'⟩
  let bound := max scope.nestingBound scope'.nestingBound
  have hbound := remaining_start_le_nestingBound scope value
  have hbound' := remaining_start_le_nestingBound scope' value
  have hparallel : Parallel documents (scope.start value) (scope'.start value) :=
    ⟨rfl, rfl, hroots, ⟨root, hroot, .refl⟩, fun _ _ => rfl⟩
  refine congrArg Outcome.mk ?_
  calc
    _ = check scope bound (scope.start value) :=
      check_eq_check (admits_start value) hbound (Nat.le_trans hbound (Nat.le_max_left ..))
    _ = check scope' bound (scope'.start value) := h.check_eq hparallel
    _ = _ := check_eq_check (admits_start value)
      (Nat.le_trans hbound' (Nat.le_max_right ..)) hbound'

end TreeSchema.Validation

namespace TreeSchema

-- -----------------------------------------------------------------------------
-- References into the registry

namespace Reference

variable {token : String} {registry : Registry}

theorem resolve_of_head (root : Value) (registry : Registry) (h : token.toList.head? = some '#') :
    resolve token root registry = follow root (split token).2 := by
  simp only [resolve]
  split
  · rfl
  · rename_i hhead
    obtain ⟨rest, htoken⟩ := List.head?_eq_some_iff.mp h
    exact absurd htoken (hhead rest)

theorem resolve_of_head_ne (root : Value) (h : token.toList.head? ≠ some '#') :
    resolve token root registry =
      (registry.lookup (split token).1).bind (follow · (split token).2) := by
  simp only [resolve]
  split
  · rename_i htoken
    simp [htoken] at h
  · rfl

theorem split_append {before : String} (after : String) (h : '#' ∉ before.toList) :
    split (before ++ "#" ++ after) = (before, after.toList) := by
  have hkeep : ∀ c ∈ before.toList, decide (c ≠ '#') = true := by
    intro c hmem
    simpa using fun heq : c = '#' => h (heq ▸ hmem)
  have htoken : (before ++ "#" ++ after).toList = before.toList ++ '#' :: after.toList := by simp
  simp only [split, htoken, List.takeWhile_append_of_pos hkeep, List.dropWhile_append_of_pos hkeep]
  simp

theorem resolve_id (root : Value) (h : '#' ∉ token.toList) :
    resolve token root registry = registry.lookup token := by
  have hkeep : ∀ c ∈ token.toList, decide (c ≠ '#') = true := by
    intro c hmem
    simpa using fun heq : c = '#' => h (heq ▸ hmem)
  have hsplit : split token = (token, []) := by
    simp only [split, List.takeWhile_eq_self_iff.mpr hkeep, List.dropWhile_eq_nil_iff.mpr hkeep,
      String.ofList_toList, List.drop_nil]
  have hfollow (document : Value) : follow document [] = some document := rfl
  have hhead : token.toList.head? ≠ some '#' := fun hhead => h (List.mem_of_head? hhead)
  rw [resolve_of_head_ne root hhead, hsplit]
  simp only [hfollow, Option.bind_fun_some]

end Reference

open Validation

/-- A value gets the same violations from a registered schema, in the same
order, whether the schema is the root or a reference leads to it, as long as no
registered document refers to the root or to that id. -/
theorem validateRegistered_eq_validate_reference (registry : Registry) (id : String)
    (hid : '#' ∉ id.toList) (hregistered : registry.contains id = true)
    (hrefs : ∀ document ∈ registry.documents.map Prod.snd,
      ∀ token ∈ document.stringsUnder "$ref", token.toList.head? ≠ some '#' ∧ token ≠ id)
    (value : Value) :
    registry.validateRegistered value id =
      some (registry.validate value (.object [("$ref", .string id)])) := by
  obtain ⟨schema, hschema⟩ := Option.isSome_iff_exists.mp hregistered
  let reference : Value := .object [("$ref", .string id)]
  let scope : Scope := ⟨schema, registry⟩
  let scope' : Scope := ⟨reference, registry⟩
  let behind : Frame := ⟨value, .root, schema, Trail.empty.extend id⟩
  -- The root of the first validation is a registered document as well.
  have hforeign : ∀ document ∈ scope.documents, ∀ token ∈ document.stringsUnder "$ref",
      token.toList.head? ≠ some '#' ∧ token ≠ id := by
    intro document hmem
    rcases List.mem_cons.mp hmem with rfl | hmem
    · exact hrefs _ (List.mem_map.mpr ⟨_, mem_of_lookup hschema, rfl⟩)
    · exact hrefs document hmem
  have hshared : Shared scope scope' (· ∈ scope.documents) := by
    refine ⟨fun {document token} hmem htoken => ?_, fun _ _ => Scope.contains_of_resolve⟩
    have hhead := (hforeign document hmem token htoken).1
    rw [Reference.resolve_of_head_ne _ hhead, Reference.resolve_of_head_ne _ hhead]
  have halongside : Alongside (· ∈ scope.documents) (scope.start value) behind := by
    refine ⟨rfl, rfl, rfl, scope.contains_root, fun {document token} hmem htoken => ?_⟩
    have hne := (hforeign document hmem token htoken).2
    simp [behind, Scope.start, Trail.contains_extend, hne]
  have hfollow : Reference.resolve id reference registry = some schema :=
    (Reference.resolve_id reference hid).trans hschema
  let bound := max scope.nestingBound scope'.nestingBound
  have hbound := remaining_start_le_nestingBound scope value
  have hbound' := remaining_start_le_nestingBound scope' value
  have hequal : check scope scope.nestingBound (scope.start value) =
      check scope' scope'.nestingBound (scope'.start value) := calc
    _ = check scope bound (scope.start value) :=
      check_eq_check (admits_start value) hbound (Nat.le_trans hbound (Nat.le_max_left ..))
    _ = check scope' bound behind := hshared.check_eq halongside
    _ = check scope' (bound + 1) (scope'.start value) := by
      show _ = step scope' (check scope' bound) (scope'.start value)
      rw [step_reference rfl rfl, followReference_target rfl hfollow]
      rfl
    _ = _ := check_eq_check (admits_start value)
      (Nat.le_succ_of_le (Nat.le_trans hbound' (Nat.le_max_right ..))) hbound'
  simp only [Registry.validateRegistered, hschema, Option.map_some, Registry.validate]
  exact congrArg (some ∘ Outcome.mk) hequal

theorem validateRegistered_eq_validate_reference_chain :
    let name : Value := .object [("parts", .object [("first", .object [("type", .string "string")])])]
    let user : Value := .object [("properties",
      .object [("name", .object [("$ref", .string "name#/parts/first")])])]
    let registry := Registry.ofList [("name", name), ("user", user)]
    let value : Value := .object [("name", .null)]
    '#' ∉ "user".toList ∧ registry.contains "user" = true ∧
      (∀ document ∈ registry.documents.map Prod.snd,
        ∀ token ∈ document.stringsUnder "$ref", token.toList.head? ≠ some '#' ∧ token ≠ "user") ∧
      registry.validateRegistered value "user" =
        some (registry.validate value (.object [("$ref", .string "user")])) ∧
      (registry.validate value (.object [("$ref", .string "user")])).violations.length = 1 := by
  intro name user registry value
  have hid : '#' ∉ "user".toList := by decide
  have hregistered : registry.contains "user" = true := by decide
  have hrefs : ∀ document ∈ registry.documents.map Prod.snd,
      ∀ token ∈ document.stringsUnder "$ref",
        token.toList.head? ≠ some '#' ∧ token ≠ "user" := by decide
  exact ⟨hid, hregistered, hrefs,
    validateRegistered_eq_validate_reference registry "user" hid hregistered hrefs value, by decide⟩

end TreeSchema
