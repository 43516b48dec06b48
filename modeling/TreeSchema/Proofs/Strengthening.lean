import TreeSchema.Proofs.Predicates

/-!
# More keywords accept less

A node means the conjunction of its keywords, and a keyword that it lacks asks
for nothing. So a keyword that is added can only refuse values, whatever it
holds and whichever of the others it bears upon: `isValid_of_insert`. The
exceptions are `properties` and `patternProperties`, which except members from
`additionalProperties`.
-/

namespace TreeSchema

/-- Every keyword of `node` has the same value in `node'`, and the keywords that
declare properties do not differ at all. -/
structure Members.Extends (node' node : Members) : Prop where
  kept {keyword : String} {held : Value} :
    node.lookup keyword = some held → node'.lookup keyword = some held
  declared : node'.lookup "properties" = node.lookup "properties"
  patterns : node'.lookup "patternProperties" = node.lookup "patternProperties"

namespace Members.Extends

variable {node node' : Members}

theorem insert {keyword : String} (held : Value) (hnew : node.lookup keyword = none)
    (hkeyword : keyword ∉ ["properties", "patternProperties"]) :
    Members.Extends (Assoc.insert keyword held node) node := by
  have hlookup {other : String} (hne : other ≠ keyword) :
      (Assoc.insert keyword held node).lookup other = node.lookup other := by
    rw [Assoc.lookup_insert, if_neg hne]
  refine ⟨fun {other value} hother => ?_, hlookup ?_, hlookup ?_⟩
  · rw [hlookup, hother]
    rintro rfl
    simp [hnew] at hother
  · rintro rfl
    exact hkeyword (by decide)
  · rintro rfl
    exact hkeyword (by decide)

end Members.Extends

namespace Validation

section Meaning

variable {node node' : Members} {sat : Value → Value → Prop}

theorem WithinLimits.of_extends {least greatest : String} {count : Nat} (h : node'.Extends node)
    (hlimits : WithinLimits node' least greatest count) : WithinLimits node least greatest count :=
  ⟨fun n limit hn => hlimits.1 n limit (h.kept hn), fun n limit hn => hlimits.2 n limit (h.kept hn)⟩

theorem StringHolds.of_extends {s : String} (h : node'.Extends node)
    (hstring : StringHolds s node') : StringHolds s node where
  length := hstring.length.of_extends h
  pattern source hsource := hstring.pattern source (h.kept hsource)

theorem NumberHolds.of_extends {n : Number} (h : node'.Extends node)
    (hnumber : NumberHolds n node') : NumberHolds n node where
  minimum limit hlimit :=
    (hnumber.minimum limit (h.kept hlimit)).imp_right fun hstrict htrue => hstrict (h.kept htrue)
  maximum limit hlimit :=
    (hnumber.maximum limit (h.kept hlimit)).imp_right fun hstrict htrue => hstrict (h.kept htrue)
  exclusiveMinimum limit hlimit := hnumber.exclusiveMinimum limit (h.kept hlimit)
  exclusiveMaximum limit hlimit := hnumber.exclusiveMaximum limit (h.kept hlimit)
  multipleOf divisor hdivisor := hnumber.multipleOf divisor (h.kept hdivisor)

theorem ObjectHolds.of_extends {members : Members} (h : node'.Extends node)
    (hobject : ObjectHolds sat members node') : ObjectHolds sat members node where
  required keys hkeys := hobject.required keys (h.kept hkeys)
  size := hobject.size.of_extends h
  properties declared hdeclared := hobject.properties declared (h.kept hdeclared)
  patternProperties patterns hpatterns := hobject.patternProperties patterns (h.kept hpatterns)
  additionalProperties schema hschema key child hmem hadditional := by
    -- A key that is additional in `node` must still be so in `node'`, which could
    -- fail if that one declared more.
    refine hobject.additionalProperties schema (h.kept hschema) key child hmem ?_
    simpa only [Additional, h.declared, h.patterns] using hadditional

theorem ArrayHolds.of_extends {items : List Value} (h : node'.Extends node)
    (harray : ArrayHolds sat items node') : ArrayHolds sat items node where
  size := harray.size.of_extends h
  unique htrue := harray.unique (h.kept htrue)
  every schema hschema := harray.every schema (h.kept hschema)
  each schemas hschemas := harray.each schemas (h.kept hschemas)

theorem Holds.of_extends {value : Value} (h : node'.Extends node)
    (hnode : Holds sat value node') : Holds sat value node where
  condition condition hif := by
    obtain ⟨hthen, helse⟩ := hnode.condition condition (h.kept hif)
    exact ⟨fun hsat schema hschema => hthen hsat schema (h.kept hschema),
      fun hsat schema hschema => helse hsat schema (h.kept hschema)⟩
  oneOf options hoptions := hnode.oneOf options (h.kept hoptions)
  const expected hexpected := hnode.const expected (h.kept hexpected)
  enum options hoptions := hnode.enum options (h.kept hoptions)
  type declared hdeclared := hnode.type declared (h.kept hdeclared)
  string s hvalue := (hnode.string s hvalue).of_extends h
  number n hvalue := (hnode.number n hvalue).of_extends h
  object members hvalue := (hnode.object members hvalue).of_extends h
  array items hvalue := (hnode.array items hvalue).of_extends h
  allOf schemas hschemas := hnode.allOf schemas (h.kept hschemas)
  anyOf options hoptions := hnode.anyOf options (h.kept hoptions)
  not negated hnot := hnode.not negated (h.kept hnot)

end Meaning

/-- The subschemas have no references, so that it does not matter to them which
of the two nodes is the root. -/
theorem sat_of_extends {scope scope' : Scope} {trail : Finset String} {node node' : Members}
    {value : Value} (h : node'.Extends node) (hnone' : node'.lookup "$ref" = none)
    (hfree : ReferenceFree (.object node)) (hsat : Sat scope' trail value (.object node')) :
    Sat scope trail value (.object node) := by
  obtain ⟨hnone, hsubs⟩ := hfree.inv
  rw [sat_iff] at hsat ⊢
  simp only [Meaning, hnone, hnone'] at hsat ⊢
  exact (hsat.of_extends h).congr fun schema hsub _ => (hsubs schema hsub).sat_congr

/-- A value that a schema with one keyword more accepts is accepted without that
keyword as well. The keyword may hold anything, and references as well; there
are none in the rest of the schema. -/
theorem isValid_of_insert (registry : Registry) {node : Members} {keyword : String} (held : Value)
    (hnew : node.lookup keyword = none)
    (hkeyword : keyword ∉ ["$ref", "properties", "patternProperties"])
    (hfree : ReferenceFree (.object node)) (value : Value)
    (hvalid : (registry.validate value (.object (Assoc.insert keyword held node))).isValid = true) :
    (registry.validate value (.object node)).isValid = true := by
  have hextends : Members.Extends (Assoc.insert keyword held node) node :=
    .insert held hnew fun hmem => hkeyword (List.mem_cons_of_mem _ hmem)
  have hne : "$ref" ≠ keyword := by
    rintro rfl
    exact hkeyword List.mem_cons_self
  have hnone : (Assoc.insert keyword held node).lookup "$ref" = none := by
    rw [Assoc.lookup_insert, if_neg hne]
    exact hfree.inv.1
  rw [validate_isValid] at hvalid ⊢
  exact sat_of_extends hextends hnone hfree hvalid

/-- What is no schema refuses every value. Under `if` it leaves the value to an
`else` that is not there, and without `if` a `then` is not asked either. -/
theorem isValid_of_insert_condition :
    let node : Members := [("maximum", .ofInt 3), ("then", .bool false)]
    let node' := Assoc.insert "if" (.string "no schema") node
    node.lookup "if" = none ∧ "if" ∉ ["$ref", "properties", "patternProperties"] ∧
      ReferenceFree (.object node) ∧
      (Registry.empty.validate (.ofInt 3) (.object node')).isValid = true ∧
      (Registry.empty.validate (.ofInt 3) (.object node)).isValid = true := by
  intro node node'
  have hfree : ReferenceFree (.object node) := by
    refine .ofEntries rfl ?_
    simpa [node, Role.of, Role.schemas] using ReferenceFree.leaf rfl
  have hvalid : (Registry.empty.validate (.ofInt 3) (.object node')).isValid = true := by decide
  exact ⟨rfl, by decide, hfree, hvalid,
    isValid_of_insert .empty (.string "no schema") rfl (by decide) hfree (.ofInt 3) hvalid⟩

end Validation

end TreeSchema
