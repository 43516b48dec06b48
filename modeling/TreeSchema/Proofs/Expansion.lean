import TreeSchema.Proofs.Findings

/-!
# References are substitution

`Expands` replaces every reference in schema position by what it leads to. A
schema that can be expanded and its expansion get the same answers:
`validate_expand`.
-/

namespace TreeSchema.Validation

/-- The second schema is the first with all references replaced. A reference is
replaced, with all members beside it, by the expansion of its target, which
must be an object. The schemas in any other object are expanded in their places,
and nothing else in it changes. -/
inductive Expands (scope : Scope) : Value → Value → Prop
  | reference {node target : Members} {token : String} {expanded : Value} :
      node.lookup "$ref" = some (.string token) →
      Reference.resolve token scope.root scope.registry = some (.object target) →
      Expands scope (.object target) expanded → Expands scope (.object node) expanded
  -- `R` stands for `Expands` itself, which may not occur nested in `Related`.
  | node {node expanded : Members} {R : Value → Value → Prop} :
      node.lookup "$ref" = none →
      (∀ schema schema', R schema schema' → Expands scope schema schema') →
      node.Related R expanded → Expands scope (.object node) (.object expanded)
  | leaf {schema : Value} : schema.asMembers? = none → Expands scope schema schema

variable {scope scope' : Scope} {f f' g : Frame} {schema expanded : Value}

-- -----------------------------------------------------------------------------
-- What can be expanded

theorem Expands.leaf_or_object (h : Expands scope schema expanded) :
    schema = expanded ∨ ∃ node node', schema = .object node ∧ expanded = .object node' := by
  induction h with
  | @reference node target token expanded _ _ _ ih =>
    obtain rfl | ⟨_, node', -, rfl⟩ := ih
    · exact .inr ⟨node, target, rfl, rfl⟩
    · exact .inr ⟨node, node', rfl, rfl⟩
  | @node node expanded => exact .inr ⟨node, expanded, rfl, rfl⟩
  | leaf => exact .inl rfl

theorem Expands.finite (h : Expands scope schema expanded) : Finite scope schema := by
  induction h with
  | reference href hresolve _ ih =>
    refine .intro _ fun inner hstep => ?_
    cases hstep with
    | subschema hnone => simp [href] at hnone
    | reference href' hresolve' =>
      obtain rfl := Value.string.inj (Option.some.inj (href.symm.trans href'))
      obtain rfl := Option.some.inj (hresolve.symm.trans hresolve')
      exact ih
  | node hnone _ hrelated ih =>
    refine .intro _ fun inner hstep => ?_
    cases hstep with
    | subschema _ hsub =>
      obtain ⟨schema', hR⟩ := hrelated.exists_right hsub
      exact ih inner schema' hR
    | reference href => simp [href] at hnone
  | leaf hleaf =>
    refine .intro _ fun inner hstep => ?_
    cases hstep <;> simp [Value.asMembers?] at hleaf

-- -----------------------------------------------------------------------------
-- The simulation

structure Facing (scope scope' : Scope) (f f' : Frame) : Prop extends
    Beside scope scope' f f' where
  traced : Traced scope f

theorem facing_start {value : Value} :
    Facing scope scope' (scope.start value) (scope'.start value) :=
  ⟨beside_start value, traced_start value⟩

theorem Facing.target (h : Facing scope scope' f f') (hcall : Calls scope f g)
    (hvalue : g.value = f.value) (hlocation : g.location = f.location) :
    Facing scope scope' g f' :=
  ⟨⟨hvalue.trans h.value, hlocation.trans h.location, h.admits.call hcall, h.admits'⟩,
    h.traced.call hcall⟩

theorem Expands.check_eq {bound bound' : Nat} (h : Expands scope schema expanded)
    (hfacing : Facing scope scope' f f') (hschema : f.schema = schema)
    (hexpanded : f'.schema = expanded) (hbound : remaining scope f ≤ bound)
    (hbound' : remaining scope' f' ≤ bound') :
    check scope bound f = check scope' bound' f' := by
  induction h generalizing f f' bound bound' with
  | @reference node target token expanded href hresolve hexpands ih =>
    obtain ⟨bound, rfl⟩ := exists_eq_succ_of_remaining_le hbound
    have hfinite : Finite scope f.schema :=
      hschema ▸ (Expands.reference href hresolve hexpands).finite
    have htrail : f.trail.contains token = false := by
      simpa [Trail.contains] using hfacing.traced.fresh hschema href hfinite
    have hcall := Calls.reference hschema href htrail hresolve
    have hlt := remaining_lt hfacing.admits hcall
    show step scope (check scope bound) f = _
    rw [step_reference hschema href, followReference_target htrail hresolve]
    exact ih (hfacing.target hcall rfl rfl) rfl hexpanded (by omega) hbound'
  | @node node expanded R hnone hexpands hrelated ih =>
    obtain ⟨bound, rfl⟩ := exists_eq_succ_of_remaining_le hbound
    obtain ⟨bound', rfl⟩ := exists_eq_succ_of_remaining_le hbound'
    have hnone' : expanded.lookup "$ref" = none := hrelated.lookup_eq "$ref" rfl ▸ hnone
    show step scope (check scope bound) f = step scope' (check scope' bound') f'
    rw [step_keywords hschema hnone, step_keywords hexpanded hnone']
    refine checkKeywords_congr ⟨hfacing.value, hfacing.location, ?_, ?_⟩ hrelated.subschemas
    · rintro inner inner' ⟨hR, -, -⟩ b
      exact bool_congr (hexpands _ _ hR).leaf_or_object b
    · rintro inner inner' value location ⟨hR, hsub, hsub'⟩ hoffers
      obtain ⟨hcall, hbeside, hlt, hlt'⟩ :=
        hfacing.keyword hschema hnone hsub hexpanded hnone' hsub' hoffers
      exact ih inner inner' hR ⟨hbeside, hfacing.traced.call hcall⟩ rfl rfl (by omega) (by omega)
  | leaf hleaf =>
    exact hfacing.check_leaf (hschema ▸ hleaf) (hschema.trans hexpanded.symm) hbound hbound'

theorem Justified.not_circular {v : Violation} (h : Justified scope v)
    (hfinite : Finite scope scope.root) : v.kind ≠ .circularReference := by
  intro hkind
  obtain ⟨node, token, -, hreached, href, target, node', hresolve, hback, href'⟩ := h.circular hkind
  have htarget : SchemaStep scope (.object node) target := .reference href hresolve
  have hcycle := Relation.TransGen.tail' hback (.reference href' hresolve)
  exact (hfinite.of_reaches (hreached.tail htarget)).not_cyclic hcycle

/-- A schema and its expansion give every value the same violations, in the
same order, and no reference is reported as circular. The expansion needs no
registry: with any other it gives the same. -/
theorem validate_expand (registry registry' : Registry) (root expanded : Value)
    (h : Expands ⟨root, registry⟩ root expanded) (value : Value) :
    registry.validate value root = registry'.validate value expanded ∧
      ∀ v ∈ (registry.validate value root).violations, v.kind ≠ .circularReference := by
  refine ⟨congrArg Outcome.mk ?_, fun v hmem => ?_⟩
  · exact h.check_eq facing_start rfl rfl (remaining_start_le_nestingBound _ value)
      (remaining_start_le_nestingBound _ value)
  · exact (justified_of_mem_check (traced_start value) hmem).not_circular h.finite

theorem validate_expand_shared_definition :
    let name : Value := .object [("type", .string "string")]
    let use : Value := .object [("$ref", .string "#/name"), ("minLength", .null)]
    let root : Value := .object [("name", name), ("allOf", .array [use, use])]
    let expanded : Value := .object [("name", name), ("allOf", .array [name, name])]
    Expands ⟨root, .empty⟩ root expanded ∧
      Registry.empty.validate .null root = Registry.empty.validate .null expanded ∧
      (∀ v ∈ (Registry.empty.validate .null root).violations, v.kind ≠ .circularReference) ∧
      (Registry.empty.validate .null root).violations.length = 2 := by
  intro name use root expanded
  have hname : Expands ⟨root, .empty⟩ name name :=
    .node (R := fun _ _ => False) rfl (fun _ _ => False.elim)
      (.ofEntries (.cons ⟨rfl, .data⟩ .nil))
  have huse : Expands ⟨root, .empty⟩ use name := .reference rfl rfl hname
  have hroot : Expands ⟨root, .empty⟩ root expanded :=
    .node rfl (fun _ _ => id) (.ofEntries
      (.cons ⟨rfl, .data⟩ (.cons ⟨rfl, .list (.cons huse (.cons huse .nil))⟩ .nil)))
  obtain ⟨hequal, hcircular⟩ := validate_expand .empty .empty root expanded hroot .null
  exact ⟨hroot, hequal, hcircular, by decide⟩

end TreeSchema.Validation
