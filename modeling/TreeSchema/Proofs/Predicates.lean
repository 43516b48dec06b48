import TreeSchema.Proofs.Verdict

/-!
# Predicates show their verdict only

`if`, `oneOf`, `anyOf` and `not` ask their subschemas for a verdict and drop
what was found there. So a subschema in such a place may be replaced by any
other that accepts the same values, at any depth and in any number of places,
and every value keeps its violations: `validate_upToPredicates`.
-/

namespace TreeSchema.Validation

inductive ReferenceFree : Value → Prop
  | node {node : Members} : node.lookup "$ref" = none →
      (∀ schema, node.Subschema schema → ReferenceFree schema) → ReferenceFree (.object node)
  | leaf {schema : Value} : schema.asMembers? = none → ReferenceFree schema

def AcceptSame (schema schema' : Value) : Prop :=
  ∀ value, (Registry.empty.validate value schema).isValid =
    (Registry.empty.validate value schema').isValid

/-- The schemas are equal, but for subschemas that are asked for a verdict only.
Those may differ as long as they accept the same values. -/
inductive UpToPredicates : Value → Value → Prop
  -- `R` stands for `UpToPredicates` itself, which may not occur nested in `RelatedBy`.
  | node {node node' : Members} {R : Value → Value → Prop} :
      (∀ schema schema', R schema schema' → UpToPredicates schema schema') →
      node.RelatedBy (fun keyword schema schema' =>
        R schema schema' ∨ isPredicate keyword = true ∧ AcceptSame schema schema') node' →
      UpToPredicates (.object node) (.object node')
  | leaf {schema : Value} : schema.asMembers? = none → UpToPredicates schema schema

variable {scope scope' : Scope} {f f' : Frame} {schema schema' : Value} {bound bound' : Nat}

-- -----------------------------------------------------------------------------
-- Schemas without references

theorem ReferenceFree.sat_congr (h : ReferenceFree schema) {trail trail' : Finset String}
    {value : Value} : Sat scope trail value schema ↔ Sat scope' trail' value schema := by
  induction h generalizing value with
  | node hnone _ ih =>
    rw [sat_iff, sat_iff]
    simp only [Meaning, hnone]
    exact ⟨Holds.congr fun inner hsub _ => ih inner hsub,
      Holds.congr fun inner hsub _ => (ih inner hsub).symm⟩
  | @leaf schema hleaf =>
    rw [sat_iff, sat_iff]
    cases schema with
    | object => simp [Value.asMembers?] at hleaf
    | _ => rfl

theorem ReferenceFree.passes_eq (h : ReferenceFree f.schema) (hadmits : Admits scope f)
    (hbound : remaining scope f ≤ bound) :
    passes (check scope bound) f = (Registry.empty.validate f.value f.schema).isValid := by
  rw [Bool.eq_iff_iff, passes_iff, check_eq_nil hadmits hbound, validate_isValid]
  exact h.sat_congr

theorem ReferenceFree.ofEntries {node : Members} (hnone : node.lookup "$ref" = none)
    (h : ∀ entry ∈ node, ∀ inner ∈ (Role.of entry.1).schemas entry.2, ReferenceFree inner) :
    ReferenceFree (.object node) := by
  refine .node hnone fun inner hsub => ?_
  obtain ⟨keyword, held, hheld, hmem⟩ := hsub
  exact h _ (mem_of_lookup hheld) inner hmem

theorem ReferenceFree.inv {node : Members} (h : ReferenceFree (.object node)) :
    node.lookup "$ref" = none ∧ ∀ inner, node.Subschema inner → ReferenceFree inner := by
  cases h with
  | node hnone hsubs => exact ⟨hnone, hsubs⟩
  | leaf hleaf => simp [Value.asMembers?] at hleaf

-- -----------------------------------------------------------------------------
-- Two validations with other predicates

theorem UpToPredicates.leaf_or_object (h : UpToPredicates schema schema') :
    schema = schema' ∨ ∃ node node', schema = .object node ∧ schema' = .object node' := by
  cases h with
  | @node node node' => exact .inr ⟨node, node', rfl, rfl⟩
  | leaf => exact .inl rfl

theorem UpToPredicates.check_eq (h : UpToPredicates schema schema')
    (hbeside : Beside scope scope' f f') (hschema : f.schema = schema)
    (hschema' : f'.schema = schema') (hfree : ReferenceFree schema) (hfree' : ReferenceFree schema')
    (hbound : remaining scope f ≤ bound) (hbound' : remaining scope' f' ≤ bound') :
    check scope bound f = check scope' bound' f' := by
  induction h generalizing f f' bound bound' with
  | @node node node' R hR hrelated ih =>
    obtain ⟨bound, rfl⟩ := exists_eq_succ_of_remaining_le hbound
    obtain ⟨bound', rfl⟩ := exists_eq_succ_of_remaining_le hbound'
    obtain ⟨hnone, hsubs⟩ := hfree.inv
    obtain ⟨hnone', hsubs'⟩ := hfree'.inv
    -- Schemas related by `R` get the same violations, in a predicate or not.
    have hanswer {inner inner' value : Value} {location : Location} (hinner : R inner inner')
        (hsub : node.Subschema inner) (hsub' : node'.Subschema inner')
        (hoffers : f.Offers value location) :
        check scope bound ⟨value, location, inner, f.trail⟩ =
          check scope' bound' ⟨value, location, inner', f'.trail⟩ := by
      obtain ⟨-, hbeside', hlt, hlt'⟩ :=
        hbeside.keyword hschema hnone hsub hschema' hnone' hsub' hoffers
      exact ih inner inner' hinner hbeside' rfl rfl (hsubs _ hsub) (hsubs' _ hsub') (by omega)
        (by omega)
    show step scope (check scope bound) f = step scope' (check scope' bound') f'
    rw [step_keywords hschema hnone, step_keywords hschema' hnone']
    refine checkKeywords_congrBy ⟨hbeside.value, hbeside.location, ?_, ?_, ?_⟩ hrelated.subschemas
    · rintro inner inner' ⟨hinner | ⟨hkeyword, -⟩, -, -⟩ b
      · exact bool_congr (hR _ _ hinner).leaf_or_object b
      · exact absurd hkeyword (by decide)
    · rintro keyword inner inner' value location ⟨hinner | ⟨hkeyword, -⟩, hsub, hsub'⟩ hreported
      · exact hanswer hinner hsub hsub'
      · exact absurd hkeyword (by simp [hreported])
    · rintro keyword inner inner' ⟨hinner | ⟨-, hsame⟩, hsub, hsub'⟩ -
      · have hequal := hanswer hinner hsub hsub' .itself
        simp only [passes, Frame.against, ← hbeside.value, ← hbeside.location, hequal]
      · obtain ⟨-, hbeside', hlt, hlt'⟩ :=
          hbeside.keyword hschema hnone hsub hschema' hnone' hsub' .itself
        have hpasses := (hsubs _ hsub).passes_eq hbeside'.admits
          (Nat.le_of_lt_succ (hlt.trans_le hbound))
        have hpasses' := (hsubs' _ hsub').passes_eq hbeside'.admits'
          (Nat.le_of_lt_succ (hlt'.trans_le hbound'))
        simp only [Frame.against, ← hbeside.value, ← hbeside.location]
        rw [hpasses, hpasses']
        exact hsame f.value
  | leaf hleaf =>
    exact hbeside.check_leaf (hschema ▸ hleaf) (hschema.trans hschema'.symm) hbound hbound'

/-- Schemas without references that are equal up to predicates give every value
the same violations, in the same order. Of a predicate nothing else than its
verdict comes to light. -/
theorem validate_upToPredicates (registry registry' : Registry) {root root' : Value}
    (h : UpToPredicates root root') (hfree : ReferenceFree root) (hfree' : ReferenceFree root')
    (value : Value) : registry.validate value root = registry'.validate value root' :=
  congrArg Outcome.mk (h.check_eq (beside_start value) rfl rfl hfree hfree'
    (remaining_start_le_nestingBound _ value) (remaining_start_le_nestingBound _ value))

theorem validate_upToPredicates_no_schema :
    let root (refusing : Value) : Value := .object [
      ("allOf", .array [.object [("oneOf", .array [refusing])]]), ("anyOf", .array [refusing])]
    UpToPredicates (root (.bool false)) (root .null) ∧
      ReferenceFree (root (.bool false)) ∧ ReferenceFree (root .null) ∧
      Registry.empty.validate .null (root (.bool false)) =
        Registry.empty.validate .null (root .null) ∧
      (Registry.empty.validate .null (root .null)).violations.length = 2 := by
  intro root
  have hsame : AcceptSame (.bool false) .null := fun _ => rfl
  have hfree {refusing : Value} (hleaf : refusing.asMembers? = none) :
      ReferenceFree (root refusing) := by
    have hrefusing : ReferenceFree refusing := .leaf hleaf
    have hone : ReferenceFree (.object [("oneOf", .array [refusing])]) :=
      .ofEntries rfl (by simpa [Role.of, Role.schemas, Value.asItems?] using hrefusing)
    exact .ofEntries rfl (by simpa [Role.of, Role.schemas, Value.asItems?] using ⟨hone, hrefusing⟩)
  have hone : UpToPredicates (.object [("oneOf", .array [.bool false])])
      (.object [("oneOf", .array [.null])]) :=
    .node (R := fun _ _ => False) (fun _ _ => False.elim)
      (.ofEntries (.cons ⟨rfl, .list (.cons (.inr ⟨rfl, hsame⟩) .nil)⟩ .nil))
  have hroot : UpToPredicates (root (.bool false)) (root .null) :=
    .node (fun _ _ => id) (.ofEntries (.cons ⟨rfl, .list (.cons (.inl hone) .nil)⟩
      (.cons ⟨rfl, .list (.cons (.inr ⟨rfl, hsame⟩) .nil)⟩ .nil)))
  exact ⟨hroot, hfree rfl, hfree rfl,
    validate_upToPredicates .empty .empty hroot (hfree rfl) (hfree rfl) .null, by decide⟩

end TreeSchema.Validation
