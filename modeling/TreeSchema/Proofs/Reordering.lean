import TreeSchema.Proofs.Descent

/-!
# Lists in another order

Two nodes that hold the same, but for the order of what is listed under `oneOf`,
`anyOf`, `allOf` and `required`, report the same violations. Only those of the
last two follow the order of their lists.
-/

namespace TreeSchema.Validation

/-- What a step reads is the same in both nodes, but for the order of lists. -/
structure Reorders (node node' : Members) : Prop where
  same : ∀ keyword ∈ dataKeywords ++ schemaKeywords, node.lookup keyword = node'.lookup keyword
  listed : ∀ keyword ∈ listKeywords,
    Option.Rel List.Perm (node.items? keyword) (node'.items? keyword)

theorem reorders_of_lookup {node node' : Members}
    (h : ∀ keyword ∈ keywords, node.lookup keyword = node'.lookup keyword) :
    Reorders node node' where
  same keyword hmem := h keyword (List.mem_cons_of_mem _ (List.mem_append_left _ hmem))
  listed keyword hmem := by
    have hlookup := h keyword (List.mem_cons_of_mem _ (List.mem_append_right _ hmem))
    simp only [Members.items?, hlookup]
    cases (node'.lookup keyword).bind Value.asItems? with
    | none => exact .none
    | some listed => exact .some (.refl listed)

namespace Reorders

variable {E : List Violation → List Violation → Prop} {check : Check} {node node' : Members}
  {f : Frame}

theorem data (h : Reorders node node') :
    ∀ keyword ∈ dataKeywords, node.lookup keyword = node'.lookup keyword :=
  fun keyword hmem => h.same keyword (List.mem_append_left _ hmem)

theorem checkCondition_eq (h : Reorders node node') :
    checkCondition check node f = checkCondition check node' f := by
  unfold checkCondition
  rw [h.same "if" (by decide)]
  cases node'.lookup "if" with
  | none => rfl
  | some condition =>
    simp only [Option.elim_some]
    split
    · rw [h.same "then" (by decide)]
    · rw [h.same "else" (by decide)]

theorem checkNot_eq (h : Reorders node node') : checkNot check node f = checkNot check node' f := by
  simp (disch := decide) only [checkNot, h.same]

theorem checkOneOf_eq (h : Reorders node node') :
    checkOneOf check node f = checkOneOf check node' f := by
  refine rel_elim (h.listed "oneOf" (by decide)) rfl fun options options' hperm => ?_
  simp only [hperm.countP_eq]

theorem checkAnyOf_eq (h : Reorders node node') :
    checkAnyOf check node f = checkAnyOf check node' f := by
  refine rel_elim (h.listed "anyOf" (by decide)) rfl fun options options' hperm => ?_
  simp only [hperm.any_eq]

theorem checkItems_eq (h : Reorders node node') (items : List Value) :
    checkItems check items node f = checkItems check items node' f := by
  unfold checkItems
  rw [h.same "items" (by decide)]

theorem patternProperties_eq (h : Reorders node node') :
    patternProperties node = patternProperties node' := by
  simp (disch := decide) only [patternProperties, Members.members?, h.same]

theorem declaredProperties_eq (h : Reorders node node') :
    declaredProperties node = declaredProperties node' := by
  simp (disch := decide) only [declaredProperties, Members.members?, h.same]

theorem checkAdditional_eq (h : Reorders node node') (members : Members)
    (patterns : List (String × Option Pattern × Value)) :
    checkAdditional check members node patterns f =
      checkAdditional check members node' patterns f := by
  unfold checkAdditional isAdditional
  rw [h.same "additionalProperties" (by decide), h.declaredProperties_eq]

theorem checkRequired_perm (h : Reorders node node') (members : Members) :
    (checkRequired members node f).Perm (checkRequired members node' f) := by
  refine rel_elim (h.listed "required" (by decide)) (.refl []) fun required required' hperm => ?_
  exact ((hperm.filterMap _).filter _).map _

theorem checkAllOf_perm (h : Reorders node node') :
    (checkAllOf check node f).Perm (checkAllOf check node' f) := by
  refine rel_elim (h.listed "allOf" (by decide)) (.refl []) fun schemas schemas' hperm => ?_
  exact hperm.flatMap_right _

end Reorders

section Compared

variable {E : List Violation → List Violation → Prop} {check : Check} {node node' : Members}
  {f : Frame}

theorem checkKeywords_reordered (hE : Cumulative E) (hrefl : ∀ found, E found found)
    (h : Reorders node node')
    (hrequired : ∀ members, E (checkRequired members node f) (checkRequired members node' f))
    (hallOf : E (checkAllOf check node f) (checkAllOf check node' f)) :
    E (checkKeywords check node f) (checkKeywords check node' f) := by
  have hshape : E (checkShape check node f) (checkShape check node' f) := by
    unfold checkShape
    split
    · simpa only [stringFaults_congr h.data] using hrefl _
    · simpa only [numberFaults_congr h.data] using hrefl _
    · simp only [checkObject, memberCountFaults_congr h.data, h.patternProperties_eq,
        checkProperties, h.declaredProperties_eq, h.checkAdditional_eq]
      -- What follows `required` is equal on both sides.
      have hlater {found found' : List Violation} (later : List Violation) (hfound : E found found') :
          E (found ++ later) (found' ++ later) := hE.append hfound (hrefl later)
      exact hlater _ (hlater _ (hlater _ (hlater _ (hrequired _))))
    · simpa only [checkArray, itemCountFaults_congr h.data, uniquenessFaults_congr h.data,
        h.checkItems_eq] using hrefl _
    · exact hrefl _
    · exact hrefl _
  simp only [checkKeywords, h.checkCondition_eq, h.checkOneOf_eq, constFaults_congr h.data,
    enumFaults_congr h.data, typeFaults_congr h.data, h.checkAnyOf_eq, h.checkNot_eq]
  refine hE.append (hrefl _) ?_
  cases constFaults f.value node' with
  | cons => exact hrefl _
  | nil =>
    refine hE.append (hrefl _) ?_
    cases typeFaults f.value node' with
    | cons => exact hrefl _
    | nil => exact hE.append (hE.append (hE.append hshape hallOf) (hrefl _)) (hrefl _)

theorem checkKeywords_of_lookup
    (h : ∀ keyword ∈ keywords, node.lookup keyword = node'.lookup keyword) :
    checkKeywords check node f = checkKeywords check node' f := by
  refine checkKeywords_reordered cumulative_eq (fun _ => rfl) (reorders_of_lookup h) ?_ ?_
  · simp (disch := decide) only [checkRequired, Members.items?, h, implies_true]
  · simp (disch := decide) only [checkAllOf, Members.items?, h]

end Compared

end TreeSchema.Validation
