import TreeSchema.Proofs.Predicates
import TreeSchema.Proofs.Reordering

/-!
# The order of listed schemas

The members of `allOf`, `anyOf`, `oneOf` and `required` may change places, at any
depth and in any number of places: every value keeps its violations, if in
another order (`validate_reordered`). That order follows `allOf` and `required`
only.
-/

namespace TreeSchema

inductive Rearranges (free : List String) (keyword : String) : Value → Value → Prop
  | same (held : Value) : Rearranges free keyword held held
  | listed {items items' : List Value} : keyword ∈ free → items.Perm items' →
      Rearranges free keyword (.array items) (.array items')

def Members.Rearranged (free : List String) (node node' : Members) : Prop :=
  ∀ keyword, Option.Rel (Rearranges free keyword) (node.lookup keyword) (node'.lookup keyword)

namespace Members.Rearranged

variable {free : List String} {node node' : Members}

theorem refl (free : List String) (node : Members) : node.Rearranged free node := by
  intro keyword
  cases node.lookup keyword with
  | none => exact .none
  | some held => exact .some (.same held)

theorem ofEntries (h : List.Forall₂ (RelatedEntry (Rearranges free)) node node') :
    node.Rearranged free node' :=
  lookup_related h

theorem lookup_eq (h : node.Rearranged free node') {keyword : String} (hkeyword : keyword ∉ free) :
    node.lookup keyword = node'.lookup keyword := by
  refine eq_of_rel (h keyword) fun held held' hheld => ?_
  cases hheld with
  | same => rfl
  | listed hfree => exact absurd hfree hkeyword

theorem items?_perm (h : node.Rearranged free node') (keyword : String) :
    Option.Rel List.Perm (node.items? keyword) (node'.items? keyword) := by
  refine rel_bind (h keyword) fun held held' hheld => ?_
  cases hheld with
  | same =>
    cases held.asItems? with
    | none => exact .none
    | some items => exact .some (.refl items)
  | listed _ hperm => exact .some hperm

theorem reorders (h : node.Rearranged free node') (hfree : free ⊆ Validation.listKeywords) :
    Validation.Reorders node node' where
  same keyword hmem := by
    have hdistinct : ∀ keyword ∈ Validation.dataKeywords ++ Validation.schemaKeywords,
        keyword ∉ Validation.listKeywords := by decide
    exact h.lookup_eq fun hkeyword => hdistinct keyword hmem (hfree hkeyword)
  listed keyword _ := h.items?_perm keyword

theorem subschema (h : node.Rearranged free node') (hfree : free ⊆ Validation.listKeywords)
    {schema : Value} (hsub : node'.Subschema schema) : node.Subschema schema := by
  obtain ⟨keyword, held', hheld', hmem⟩ := hsub
  have hrel := h keyword
  generalize hheld : node.lookup keyword = held? at hrel
  rw [hheld'] at hrel
  cases hrel with
  | some hrel =>
    refine ⟨keyword, _, hheld, ?_⟩
    cases hrel with
    | same => exact hmem
    | listed hkeyword hperm =>
      have hrole : ∀ keyword ∈ Validation.listKeywords,
          Role.of keyword = .list ∨ Role.of keyword = .data := by decide
      obtain hlist | hdata := hrole keyword (hfree hkeyword)
      · rw [hlist] at hmem ⊢
        exact hperm.mem_iff.mpr hmem
      · rw [hdata] at hmem
        exact absurd hmem List.not_mem_nil

end Members.Rearranged

namespace Validation

/-- The schemas are equal, but for the order of lists under some keywords, in
the schemas themselves and in those that stand in them. -/
inductive Reordered (free : List String) : Value → Value → Prop
  -- `R` stands for `Reordered free` itself, which may not occur nested in `Related`.
  | node {node middle node' : Members} {R : Value → Value → Prop} :
      node.Rearranged free middle →
      (∀ schema schema', R schema schema' → Reordered free schema schema') →
      middle.Related R node' → Reordered free (.object node) (.object node')
  | leaf {schema : Value} : schema.asMembers? = none → Reordered free schema schema

variable {E : List Violation → List Violation → Prop} {free : List String} {scope scope' : Scope}
  {f f' : Frame} {schema schema' : Value} {bound bound' : Nat}

theorem Reordered.refl (free : List String) (schema : Value) : Reordered free schema schema := by
  cases schema with
  | object node =>
    refine .node (R := fun inner inner' => inner = inner' ∧ Members.Subschema node inner)
      (.refl free node) ?_ (Members.related_refl fun _ hsub => ⟨rfl, hsub⟩)
    rintro inner _ ⟨rfl, hsub⟩
    have := hsub.within.2
    exact Reordered.refl free inner
  | _ => exact .leaf rfl
termination_by schema.height

theorem Reordered.leaf_or_object (h : Reordered free schema schema') :
    schema = schema' ∨ ∃ node node', schema = .object node ∧ schema' = .object node' := by
  cases h with
  | @node node _ node' => exact .inr ⟨node, node', rfl, rfl⟩
  | leaf => exact .inl rfl

-- -----------------------------------------------------------------------------
-- Two validations

theorem cumulative_perm : Cumulative List.Perm := ⟨.nil, .append, List.Perm.isEmpty_eq⟩

/-- A comparison of lists of violations that suits the order of lists under some
keywords. -/
structure Overlooks (E : List Violation → List Violation → Prop) (free : List String) : Prop
    extends Cumulative E, Equivalence E where
  known : free ⊆ listKeywords
  order : "allOf" ∈ free ∨ "required" ∈ free → ∀ {found found'}, found.Perm found' → E found found'

theorem Overlooks.rearranged (hE : Overlooks E free) {check : Check} {node node' : Members}
    (h : node.Rearranged free node') :
    E (checkKeywords check node f) (checkKeywords check node' f) := by
  have hreorders := h.reorders hE.known
  refine checkKeywords_reordered hE.toCumulative hE.refl hreorders (fun members => ?_) ?_
  · by_cases hkeyword : "required" ∈ free
    · exact hE.order (.inr hkeyword) (hreorders.checkRequired_perm members)
    · simp only [checkRequired, Members.items?, h.lookup_eq hkeyword]
      exact hE.refl _
  · by_cases hkeyword : "allOf" ∈ free
    · exact hE.order (.inl hkeyword) hreorders.checkAllOf_perm
    · simp only [checkAllOf, Members.items?, h.lookup_eq hkeyword]
      exact hE.refl _

theorem Reordered.check_compare (hE : Overlooks E free) (h : Reordered free schema schema')
    (hbeside : Beside scope scope' f f') (hschema : f.schema = schema)
    (hschema' : f'.schema = schema') (hfree : ReferenceFree schema)
    (hbound : remaining scope f ≤ bound) (hbound' : remaining scope' f' ≤ bound') :
    E (check scope bound f) (check scope' bound' f') := by
  induction h generalizing f f' bound bound' with
  | @node node middle node' R hmiddle hR hrelated ih =>
    obtain ⟨bound, rfl⟩ := exists_eq_succ_of_remaining_le hbound
    obtain ⟨bound', rfl⟩ := exists_eq_succ_of_remaining_le hbound'
    obtain ⟨hnone, hsubs⟩ := hfree.inv
    have href : "$ref" ∉ free := fun hmem => absurd (hE.known hmem) (by decide)
    have hnone' : node'.lookup "$ref" = none := by
      rw [← hrelated.lookup_eq "$ref" rfl, ← hmiddle.lookup_eq href, hnone]
    show E (step scope (check scope bound) f) (step scope' (check scope' bound') f')
    rw [step_keywords hschema hnone, step_keywords hschema' hnone']
    -- First the node takes the order of the other one, with its own schemas; then
    -- each schema is exchanged for the one it is related to.
    refine hE.trans (hE.rearranged hmiddle) ?_
    refine checkKeywords_congrUpTo (.ofAnswer hE.toCumulative hE.refl hbeside.value
      hbeside.location ?_ ?_) hrelated.subschemas.relatedBy
    · rintro inner inner' ⟨hinner, -, -⟩ b
      exact bool_congr (hR _ _ hinner).leaf_or_object b
    · rintro inner inner' value location ⟨hinner, hsub, hsub'⟩ hoffers
      have hsub := hmiddle.subschema hE.known hsub
      obtain ⟨-, hbeside', hlt, hlt'⟩ :=
        hbeside.keyword hschema hnone hsub hschema' hnone' hsub' hoffers
      exact ih inner inner' hinner hbeside' rfl rfl (hsubs _ hsub) (by omega) (by omega)
  | leaf hleaf =>
    rw [hbeside.check_leaf (hschema ▸ hleaf) (hschema.trans hschema'.symm) hbound hbound']
    exact hE.refl _

theorem Reordered.validate_compare (hE : Overlooks E free) (registry registry' : Registry)
    {root root' : Value} (h : Reordered free root root') (hfree : ReferenceFree root)
    (value : Value) :
    E (registry.validate value root).violations (registry'.validate value root').violations :=
  h.check_compare hE (beside_start value) rfl rfl hfree (remaining_start_le_nestingBound _ value)
    (remaining_start_le_nestingBound _ value)

/-- Let two schemas without references differ in the order of lists only. Every
value gets the same violations from both, each as often, and so the same verdict.
If the lists are all under `oneOf` and `anyOf`, the violations come in the same
order as well. -/
theorem validate_reordered (registry registry' : Registry) {root root' : Value}
    (hfree : ReferenceFree root) (value : Value) :
    (Reordered listKeywords root root' →
      (registry.validate value root).violations.Perm (registry'.validate value root').violations ∧
      (registry.validate value root).isValid = (registry'.validate value root').isValid) ∧
    (Reordered ["oneOf", "anyOf"] root root' →
      registry.validate value root = registry'.validate value root') := by
  have hperm : Overlooks List.Perm listKeywords :=
    ⟨cumulative_perm, List.Perm.eqv _, List.Subset.refl _, fun _ _ _ => id⟩
  have heq : Overlooks Eq ["oneOf", "anyOf"] :=
    ⟨cumulative_eq, eq_equivalence, by decide, fun hordered => absurd hordered (by decide)⟩
  constructor
  · intro h
    have hviolations := h.validate_compare hperm registry registry' hfree value
    exact ⟨hviolations, hviolations.isEmpty_eq⟩
  · exact fun h => congrArg Outcome.mk (h.validate_compare heq registry registry' hfree value)

theorem validate_reordered_pair :
    let keys (first second : String) : Value :=
      .object [("required", .array [.string first, .string second])]
    let text : Value := .object [("type", .string "string")]
    let combined (keyword : String) (first second : Value) : Value :=
      .object [(keyword, .array [first, second])]
    let all := combined "allOf" (keys "a" "b") text
    let all' := combined "allOf" text (keys "b" "a")
    let any := combined "anyOf" (keys "a" "b") text
    let any' := combined "anyOf" text (keys "a" "b")
    let outcome := Registry.empty.validate (.object [])
    ReferenceFree all ∧ Reordered listKeywords all all' ∧
      (outcome all).violations.Perm (outcome all').violations ∧
      (outcome all).violations.map Violation.location = [.key .root "a", .key .root "b", .root] ∧
      (outcome all').violations.map Violation.location = [.root, .key .root "b", .key .root "a"] ∧
      ReferenceFree any ∧ Reordered ["oneOf", "anyOf"] any any' ∧ outcome any = outcome any' ∧
      (outcome any').violations.length = 1 := by
  intro keys text combined all all' any any' outcome
  have hfree {keyword : String} (hlist : Role.of keyword = .list) (hkeyword : keyword ≠ "$ref") :
      ReferenceFree (combined keyword (keys "a" "b") text) := by
    have hkeys : ReferenceFree (keys "a" "b") := .ofEntries rfl (by simp [Role.of, Role.schemas])
    have htext : ReferenceFree text := .ofEntries rfl (by simp [Role.of, Role.schemas])
    refine .ofEntries (by simp [List.lookup_cons, beq_eq_false_iff_ne.mpr hkeyword.symm]) ?_
    simpa [hlist, Role.schemas, Value.asItems?] using ⟨hkeys, htext⟩
  have hlists {free : List String} {keyword : String} (first second : Value)
      (hkeyword : keyword ∈ free) :
      Members.Rearranged free [(keyword, .array [first, second])]
        [(keyword, .array [second, first])] :=
    .ofEntries (.cons ⟨rfl, .listed hkeyword (.swap ..)⟩ .nil)
  have hkeys : Reordered listKeywords (keys "a" "b") (keys "b" "a") :=
    .node (R := fun _ _ => False) (hlists _ _ (by decide)) (fun _ _ => False.elim)
      (.ofEntries (.cons ⟨rfl, .data⟩ .nil))
  have hall : Reordered listKeywords all all' :=
    .node (hlists _ _ (by decide)) (fun _ _ => id)
      (.ofEntries (.cons ⟨rfl, .list (.cons (.refl _ text) (.cons hkeys .nil))⟩ .nil))
  have hany : Reordered ["oneOf", "anyOf"] any any' :=
    .node (hlists _ _ (by decide)) (fun _ _ => id)
      (.ofEntries (.cons ⟨rfl, .list (.cons (.refl _ text) (.cons (.refl _ _) .nil))⟩ .nil))
  have hfreeAll : ReferenceFree all := hfree rfl (by decide)
  have hfreeAny : ReferenceFree any := hfree rfl (by decide)
  have hviolations := (validate_reordered .empty .empty hfreeAll (.object [])).1 hall
  have hequal := (validate_reordered .empty .empty hfreeAny (.object [])).2 hany
  exact ⟨hfreeAll, hall, hviolations.1, by decide, by decide, hfreeAny, hany, hequal, by decide⟩

end Validation

end TreeSchema
