import TreeSchema.Proofs.Reachability

/-!
# Where violations come from

`Cause` lists everything that a step can report: the answers to its calls, what
is wrong with the value, and what is wrong with the schema node. Followed down
the calls, a violation of the last sort names a flaw of a reachable schema:
`schema_faults_justified`.
-/

namespace TreeSchema

/-- A fault of such a kind is the value's, not the schema's. -/
def ViolationKind.blamesValue : ViolationKind → Bool
  | .circularReference | .unresolvedReference | .invalidSchema => false
  | .typeMismatch | .combinator | .constraint | .valueMismatch => true

namespace Validation

theorem mem_elim {α β : Type} {g : α → List β} {o : Option α} {y : β} :
    y ∈ o.elim [] g ↔ ∃ x, o = some x ∧ y ∈ g x := by
  cases o <;> simp

theorem mem_when {applies : Bool} {fault other : Fault} :
    other ∈ Fault.when applies fault ↔ applies = true ∧ other = fault := by
  cases applies <;> simp [Fault.when]

section Declarations

variable {node : Members} {source key : String} {schema : Value}

theorem mem_declaredProperties (h : (key, schema) ∈ declaredProperties node) :
    ∃ named, node.members? "properties" = some named ∧ (key, schema) ∈ named := by
  cases hnamed : node.members? "properties" with
  | none => simp [declaredProperties, hnamed] at h
  | some named => exact ⟨named, rfl, by simpa [declaredProperties, hnamed] using h⟩

theorem mem_patternProperties {pattern? : Option Pattern}
    (h : (source, pattern?, schema) ∈ patternProperties node) :
    Pattern.ofString? source = pattern? ∧
      ∃ named, node.members? "patternProperties" = some named ∧ (source, schema) ∈ named := by
  cases hnamed : node.members? "patternProperties" with
  | none => simp [patternProperties, hnamed] at h
  | some named =>
    obtain ⟨⟨_, _⟩, hmem, hentry⟩ := List.mem_map.mp h
    simp only [Prod.mk.injEq] at hentry
    obtain ⟨rfl, hof, rfl⟩ := hentry
    exact ⟨hof, named, rfl, by simpa [hnamed] using hmem⟩

end Declarations

-- -----------------------------------------------------------------------------
-- Faults of the value

def BlameValue (faults : List Fault) : Prop := ∀ fault ∈ faults, fault.kind.blamesValue = true

namespace BlameValue

variable {faults faults' : List Fault}

theorem append (h : BlameValue faults) (h' : BlameValue faults') : BlameValue (faults ++ faults') :=
  List.forall_mem_append.mpr ⟨h, h'⟩

theorem elim {α : Type} {o : Option α} {g : α → List Fault} (h : ∀ x, BlameValue (g x)) :
    BlameValue (o.elim [] g) := by
  intro fault hmem
  obtain ⟨x, -, hmem⟩ := mem_elim.mp hmem
  exact h x fault hmem

theorem when {applies : Bool} {fault : Fault} (h : fault.kind.blamesValue = true) :
    BlameValue (Fault.when applies fault) := by
  cases applies <;> simp [BlameValue, Fault.when, h]

end BlameValue

section Faults

variable {node : Members}

theorem limits_blameValue {least greatest : String} {count : Nat} {tooFew tooMany : Nat → Fault}
    (hfew : ∀ limit, (tooFew limit).kind.blamesValue = true)
    (hmany : ∀ limit, (tooMany limit).kind.blamesValue = true) :
    BlameValue ((node.count? least).elim [] (fun limit =>
        Fault.when (count < limit) (tooFew limit)) ++
      (node.count? greatest).elim [] fun limit => Fault.when (limit < count) (tooMany limit)) :=
  .append (.elim fun limit => .when (hfew limit)) (.elim fun limit => .when (hmany limit))

theorem minimumFaults_blameValue {n : Number} : BlameValue (minimumFaults n node) := by
  refine .elim fun limit => ?_
  split
  · simp [BlameValue, Fault.kind, ViolationKind.blamesValue]
  · exact .when rfl
  · exact List.forall_mem_nil _

theorem maximumFaults_blameValue {n : Number} : BlameValue (maximumFaults n node) := by
  refine .elim fun limit => ?_
  split
  · simp [BlameValue, Fault.kind, ViolationKind.blamesValue]
  · exact .when rfl
  · exact List.forall_mem_nil _

theorem numberFaults_blameValue {n : Number} : BlameValue (numberFaults n node) := by
  refine .append (.append (.append minimumFaults_blameValue maximumFaults_blameValue) ?_) ?_
  · exact .append (.elim fun _ => .when rfl) (.elim fun _ => .when rfl)
  · exact .elim fun _ => .when rfl

theorem uniquenessFaults_blameValue {items : List Value} :
    BlameValue (uniquenessFaults items node) := by
  intro fault hmem
  unfold uniquenessFaults at hmem
  split at hmem
  · obtain ⟨_, -, hfault⟩ := List.mem_filterMap.mp hmem
    obtain ⟨_, -, rfl⟩ := Option.map_eq_some_iff.mp hfault
    rfl
  · simp at hmem

theorem mem_stringFaults {s : String} {fault : Fault} (h : fault ∈ stringFaults s node) :
    fault.kind.blamesValue = true ∨ ∃ source, node.string? "pattern" = some source ∧
      Pattern.ofString? source = none ∧ fault = .invalidPattern source := by
  rcases List.mem_append.mp h with hlimits | hpattern
  · exact .inl (limits_blameValue (fun _ => rfl) (fun _ => rfl) fault hlimits)
  · obtain ⟨source, hsource, hmem⟩ := mem_elim.mp hpattern
    cases hof : Pattern.ofString? source with
    | none => exact .inr ⟨source, hsource, hof, by simpa [hof] using hmem⟩
    | some pattern =>
      simp only [hof] at hmem
      exact .inl (BlameValue.when rfl fault hmem)

end Faults

-- -----------------------------------------------------------------------------
-- Causes

inductive Cause (scope : Scope) (check : Check) (f : Frame) : Violation → Prop
  | call {g : Frame} {v : Violation} : Calls scope f g → v ∈ check g → Cause scope check f v
  | value {fault : Fault} : fault.kind.blamesValue = true → Cause scope check f (f.violation fault)
  | missing {members : Members} {key : String} : f.value = .object members →
      members.lookup key = none → Cause scope check f ⟨.key f.location key, .propertyMissing⟩
  | notAllowed {members : Members} {key : String} {child : Value} : f.value = .object members →
      (key, child) ∈ members → Cause scope check f ⟨.key f.location key, .propertyNotAllowed⟩
  | circular {node : Members} {token : String} : f.schema = .object node →
      node.lookup "$ref" = some (.string token) → token ∈ f.trail.tokens →
      Cause scope check f (f.violation (.circularReference token))
  | unresolved {node : Members} {token : String} : f.schema = .object node →
      node.lookup "$ref" = some (.string token) →
      Reference.resolve token scope.root scope.registry = none →
      Cause scope check f (f.violation (.unresolvedReference token))
  | notString {node : Members} {reference : Value} : f.schema = .object node →
      node.lookup "$ref" = some reference → reference.asString? = none →
      Cause scope check f (f.violation (.referenceNotString reference))
  | notNode : f.schema.asMembers? = none → f.schema.asBool? = none →
      Cause scope check f (f.violation (.schemaNotNode (.of f.schema)))
  | pattern {node : Members} {source : String} : f.schema = .object node →
      node.string? "pattern" = some source → Pattern.ofString? source = none →
      Cause scope check f (f.violation (.invalidPattern source))
  | patternKey {node named : Members} {source : String} {schema : Value} :
      f.schema = .object node → node.members? "patternProperties" = some named →
      (source, schema) ∈ named → Pattern.ofString? source = none →
      Cause scope check f (f.violation (.invalidPattern source))

section Keywords

variable {scope : Scope} {check : Check} {f : Frame} {node : Members} {v : Violation}

theorem Cause.ofFaults {faults : List Fault} (hfaults : BlameValue faults)
    (h : v ∈ f.violations faults) : Cause scope check f v := by
  obtain ⟨fault, hmem, rfl⟩ := List.mem_map.mp h
  exact .value (hfaults fault hmem)

/-- `oneOf`, `anyOf` and `not` report one fault of the value, if any, and nothing
that their subschemas report. -/
theorem Cause.ofCombinator {α : Type} {o : Option α} {applies : α → Bool} {fault : α → Fault}
    (hfault : ∀ x, (fault x).kind.blamesValue = true)
    (h : v ∈ o.elim [] fun x => f.violations (Fault.when (applies x) (fault x))) :
    Cause scope check f v := by
  obtain ⟨x, -, h⟩ := mem_elim.mp h
  exact .ofFaults (.when (hfault x)) h

theorem cause_of_mem_followReference {reference : Value} (hschema : f.schema = .object node)
    (href : node.lookup "$ref" = some reference)
    (h : v ∈ followReference scope check reference f) : Cause scope check f v := by
  cases reference with
  | string token =>
    cases htrail : f.trail.contains token with
    | true =>
      obtain rfl : v = f.violation (.circularReference token) := by
        simpa [followReference, htrail] using h
      exact .circular hschema href (by simpa [Trail.contains] using htrail)
    | false =>
      cases hresolve : Reference.resolve token scope.root scope.registry with
      | none =>
        obtain rfl : v = f.violation (.unresolvedReference token) := by
          simpa [followReference, htrail, hresolve] using h
        exact .unresolved hschema href hresolve
      | some target =>
        rw [followReference_target htrail hresolve] at h
        exact .call (.reference hschema href htrail hresolve) h
  | _ =>
    obtain rfl := List.mem_singleton.mp h
    exact .notString hschema href rfl

variable (hschema : f.schema = .object node) (href : node.lookup "$ref" = none)

include hschema href

theorem Cause.ofSubschema {schema value : Value} {location : Location}
    (hsub : node.Subschema schema) (hoffers : f.Offers value location)
    (h : v ∈ check ⟨value, location, schema, f.trail⟩) : Cause scope check f v :=
  .call (.keyword hschema href hsub hoffers) h

theorem cause_of_mem_checkCondition (h : v ∈ checkCondition check node f) :
    Cause scope check f v := by
  obtain ⟨condition, -, h⟩ := mem_elim.mp h
  obtain ⟨schema, hbranch, h⟩ := mem_elim.mp h
  have hrole : Role.of (if passes check (f.against condition) then "then" else "else") =
      .single := by
    split <;> rfl
  exact .ofSubschema hschema href (.ofLookup hbranch hrole) .itself h

theorem cause_of_mem_checkAllOf (h : v ∈ checkAllOf check node f) : Cause scope check f v := by
  obtain ⟨schemas, hschemas, h⟩ := mem_elim.mp h
  obtain ⟨schema, hmem, h⟩ := List.mem_flatMap.mp h
  exact .ofSubschema hschema href (.ofItems (Members.items?_eq_some.mp hschemas) hmem rfl)
    .itself h

theorem cause_of_mem_checkProperties {members : Members} (hvalue : f.value = .object members)
    (h : v ∈ checkProperties check members node f) : Cause scope check f v := by
  obtain ⟨⟨key, schema⟩, hmem, h⟩ := List.mem_flatMap.mp h
  obtain ⟨child, hchild, h⟩ := mem_elim.mp h
  obtain ⟨named, hnamed, hmem⟩ := mem_declaredProperties hmem
  exact .ofSubschema hschema href (.ofMembers (Members.members?_eq_some.mp hnamed) hmem rfl)
    (.member hvalue (mem_of_lookup hchild)) h

theorem cause_of_mem_checkPatternProperties {members : Members} (hvalue : f.value = .object members)
    (h : v ∈ checkPatternProperties check members (patternProperties node) f) :
    Cause scope check f v := by
  obtain ⟨⟨source, pattern?, schema⟩, hmem, h⟩ := List.mem_flatMap.mp h
  obtain ⟨hof, named, hnamed, hentry⟩ := mem_patternProperties hmem
  cases pattern? with
  | none =>
    obtain rfl := List.mem_singleton.mp h
    exact .patternKey hschema hnamed hentry hof
  | some pattern =>
    obtain ⟨⟨key, child⟩, hchild, h⟩ := List.mem_flatMap.mp h
    exact .ofSubschema hschema href (.ofMembers (Members.members?_eq_some.mp hnamed) hentry rfl)
      (.member hvalue (List.mem_filter.mp hchild).1) h

theorem cause_of_mem_checkAdditional {members : Members}
    {patterns : List (String × Option Pattern × Value)} (hvalue : f.value = .object members)
    (h : v ∈ checkAdditional check members node patterns f) : Cause scope check f v := by
  obtain ⟨additional, hadditional, h⟩ := mem_elim.mp h
  obtain ⟨⟨key, child⟩, hchild, h⟩ := List.mem_flatMap.mp h
  have hmem := (List.mem_filter.mp hchild).1
  cases additional with
  | bool allowed =>
    cases allowed with
    | false =>
      obtain rfl := List.mem_singleton.mp h
      exact .notAllowed hvalue hmem
    | true => exact absurd h List.not_mem_nil
  | _ => exact .ofSubschema hschema href (.ofLookup hadditional rfl) (.member hvalue hmem) h

theorem cause_of_mem_checkObject {members : Members} (hvalue : f.value = .object members)
    (h : v ∈ checkObject check members node f) : Cause scope check f v := by
  simp only [checkObject, List.mem_append] at h
  rcases h with (((hrequired | hcount) | hproperties) | hpatterns) | hadditional
  · obtain ⟨required, -, hrequired⟩ := mem_elim.mp hrequired
    obtain ⟨key, hkey, rfl⟩ := List.mem_map.mp hrequired
    exact .missing hvalue (by simpa [Assoc.contains] using (List.mem_filter.mp hkey).2)
  · exact .ofFaults (limits_blameValue (fun _ => rfl) fun _ => rfl) hcount
  · exact cause_of_mem_checkProperties hschema href hvalue hproperties
  · exact cause_of_mem_checkPatternProperties hschema href hvalue hpatterns
  · exact cause_of_mem_checkAdditional hschema href hvalue hadditional

theorem cause_of_mem_checkItems {items : List Value} (hvalue : f.value = .array items)
    (h : v ∈ checkItems check items node f) : Cause scope check f v := by
  cases hheld : node.lookup "items" with
  | none => simp [checkItems, hheld] at h
  | some held =>
    cases hitems : held.asItems? with
    | some schemas =>
      obtain rfl := Value.asItems?_eq_some.mp hitems
      rw [checkItems_each hheld] at h
      obtain ⟨⟨⟨item, schema⟩, position⟩, hmem, h⟩ := List.mem_flatMap.mp h
      obtain ⟨hitem, hmem⟩ := List.getElem?_zip_eq_some.mp (List.mem_zipIdx_iff_getElem?.mp hmem)
      refine .ofSubschema hschema href ?_ (.item hvalue hitem) h
      exact .ofListedItems hheld (List.mem_of_getElem? hmem)
    | none =>
      rw [checkItems_every hheld hitems] at h
      obtain ⟨⟨item, position⟩, hmem, h⟩ := List.mem_flatMap.mp h
      exact .ofSubschema hschema href (.ofSingleItems hheld (Value.asItems?_eq_none.mp hitems))
        (.item hvalue (List.mem_zipIdx_iff_getElem?.mp hmem)) h

theorem cause_of_mem_checkShape (h : v ∈ checkShape check node f) : Cause scope check f v := by
  unfold checkShape at h
  cases hvalue : f.value with
  | string s =>
    rw [hvalue] at h
    obtain ⟨fault, hmem, rfl⟩ := List.mem_map.mp h
    rcases mem_stringFaults hmem with hblame | ⟨source, hsource, hof, rfl⟩
    · exact .value hblame
    · exact .pattern hschema hsource hof
  | number n =>
    rw [hvalue] at h
    exact .ofFaults numberFaults_blameValue h
  | object members =>
    rw [hvalue] at h
    exact cause_of_mem_checkObject hschema href hvalue h
  | array items =>
    rw [hvalue] at h
    rcases List.mem_append.mp h with hfaults | hitems
    · refine .ofFaults (.append ?_ uniquenessFaults_blameValue) hfaults
      exact limits_blameValue (fun _ => rfl) fun _ => rfl
    · exact cause_of_mem_checkItems hschema href hvalue hitems
  | null => simp [hvalue] at h
  | bool b => simp [hvalue] at h

theorem cause_of_mem_checkKeywords (h : v ∈ checkKeywords check node f) :
    Cause scope check f v := by
  have hconst : BlameValue (constFaults f.value node) := .elim fun _ => .when rfl
  have henum : BlameValue (enumFaults f.value node) := .elim fun _ => .when rfl
  have htype : BlameValue (typeFaults f.value node) := .elim fun _ => .when rfl
  unfold checkKeywords at h
  rcases List.mem_append.mp h with h | h
  · rcases List.mem_append.mp h with h | h
    · exact cause_of_mem_checkCondition hschema href h
    · exact .ofCombinator (fun _ => rfl) h
  split at h
  · exact .ofFaults hconst h
  rcases List.mem_append.mp h with h | h
  · exact .ofFaults henum h
  split at h
  · exact .ofFaults htype h
  simp only [List.mem_append] at h
  rcases h with ((hshape | hallOf) | hanyOf) | hnot
  · exact cause_of_mem_checkShape hschema href hshape
  · exact cause_of_mem_checkAllOf hschema href hallOf
  · exact .ofCombinator (fun _ => rfl) hanyOf
  · exact .ofCombinator (fun _ => rfl) hnot

end Keywords

theorem cause_of_mem_step {scope : Scope} {check : Check} {f : Frame} {v : Violation}
    (h : v ∈ step scope check f) : Cause scope check f v := by
  cases hschema : f.schema with
  | object node =>
    cases href : node.lookup "$ref" with
    | some reference =>
      rw [step_reference hschema href] at h
      exact cause_of_mem_followReference hschema href h
    | none =>
      rw [step_keywords hschema href] at h
      exact cause_of_mem_checkKeywords hschema href h
  | bool allowed =>
    cases allowed with
    | true => simp [step, hschema] at h
    | false =>
      obtain rfl : v = f.violation .nothingAllowed := by simpa [step, hschema] using h
      exact .value rfl
  | _ =>
    obtain rfl : v = f.violation (.schemaNotNode (.of f.schema)) := by
      simpa [step, hschema] using h
    exact .notNode (by simp [hschema, Value.asMembers?]) (by simp [hschema, Value.asBool?])

-- -----------------------------------------------------------------------------
-- Flaws of the schema

def LeadsBack (scope : Scope) (token : String) : Prop :=
  ∃ (target : Value) (node : Members),
    Reference.resolve token scope.root scope.registry = some target ∧
    Reaches scope target (.object node) ∧ node.lookup "$ref" = some (.string token)

/-- A violation that does not blame the value names a flaw of a reachable
schema. -/
structure Justified (scope : Scope) (v : Violation) : Prop where
  circular : v.kind = .circularReference → ∃ (node : Members) (token : String),
    v.fault = .circularReference token ∧ Reaches scope scope.root (.object node) ∧
    node.lookup "$ref" = some (.string token) ∧ LeadsBack scope token
  unresolved : v.kind = .unresolvedReference → ∃ (node : Members) (reference : Value),
    Reaches scope scope.root (.object node) ∧ node.lookup "$ref" = some reference ∧
    ((∃ token, v.fault = .unresolvedReference token ∧ reference = .string token ∧
        Reference.resolve token scope.root scope.registry = none) ∨
      v.fault = .referenceNotString reference ∧ reference.asString? = none)
  invalid : v.kind = .invalidSchema →
    (∃ schema, v.fault = .schemaNotNode (.of schema) ∧ Reaches scope scope.root schema ∧
      schema.asMembers? = none ∧ schema.asBool? = none) ∨
    ∃ (node : Members) (source : String), v.fault = .invalidPattern source ∧
      Reaches scope scope.root (.object node) ∧ Pattern.ofString? source = none ∧
      (node.string? "pattern" = some source ∨
        ∃ named schema, node.members? "patternProperties" = some named ∧ (source, schema) ∈ named)

theorem justified_of_blamesValue {scope : Scope} {v : Violation}
    (h : v.kind.blamesValue = true) : Justified scope v := by
  constructor <;> intro hkind <;> simp [hkind, ViolationKind.blamesValue] at h

theorem justified_of_mem_check {scope : Scope} {bound : Nat} {f : Frame} {v : Violation}
    (hf : Traced scope f) (h : v ∈ check scope bound f) : Justified scope v := by
  induction bound generalizing f with
  | zero => exact absurd h List.not_mem_nil
  | succ bound ih =>
    have hreached {node : Members} (hschema : f.schema = .object node) :
        Reaches scope scope.root (.object node) := hschema ▸ hf.reached
    cases cause_of_mem_step h with
    | call hcall hmem => exact ih (hf.call hcall) hmem
    | value hblame => exact justified_of_blamesValue hblame
    | missing => exact justified_of_blamesValue rfl
    | notAllowed => exact justified_of_blamesValue rfl
    | @circular node token hschema href hmem =>
      obtain ⟨_, target, -, -, hresolve, htarget⟩ := hf.followed token hmem
      exact ⟨fun _ => ⟨node, token, rfl, hreached hschema, href, target, node, hresolve,
        hschema ▸ htarget, href⟩, nofun, nofun⟩
    | @unresolved node token hschema href hresolve =>
      exact ⟨nofun, fun _ => ⟨node, _, hreached hschema, href, .inl ⟨token, rfl, rfl, hresolve⟩⟩,
        nofun⟩
    | @notString node reference hschema href hstring =>
      exact ⟨nofun, fun _ => ⟨node, reference, hreached hschema, href, .inr ⟨rfl, hstring⟩⟩, nofun⟩
    | notNode hmembers hbool =>
      exact ⟨nofun, nofun, fun _ => .inl ⟨f.schema, rfl, hf.reached, hmembers, hbool⟩⟩
    | @pattern node source hschema hsource hof =>
      exact ⟨nofun, nofun, fun _ => .inr ⟨node, source, rfl, hreached hschema, hof, .inl hsource⟩⟩
    | @patternKey node named source schema hschema hnamed hmem hof =>
      exact ⟨nofun, nofun, fun _ => .inr ⟨node, source, rfl, hreached hschema, hof,
        .inr ⟨named, schema, hnamed, hmem⟩⟩⟩

/-- Every violation that blames the schema names a flaw of a reachable schema,
also where the violation is found in an evaluation whose findings are
dropped. A token may occur any number of times: only one whose target leads
back to it is reported as circular. -/
theorem schema_faults_justified (registry : Registry) (value root : Value) :
    let scope : Scope := ⟨root, registry⟩
    (∀ v ∈ (registry.validate value root).violations, Justified scope v) ∧
    ∀ depth f, Nested scope (scope.start value) depth f →
      ∀ bound, ∀ v ∈ check scope bound f, Justified scope v :=
  ⟨fun _ hmem => justified_of_mem_check (traced_start value) hmem,
    fun _ _ hnested _ _ hmem => justified_of_mem_check hnested.traced hmem⟩

theorem schema_faults_justified_self_reference :
    let root : Value := .object [("$ref", .string "#")]
    let circular : Violation := ⟨.root, .circularReference "#"⟩
    circular ∈ (Registry.empty.validate .null root).violations ∧
      Justified ⟨root, .empty⟩ circular := by
  intro root circular
  have hreported : (Registry.empty.validate .null root).violations = [circular] := rfl
  have hmem : circular ∈ (Registry.empty.validate .null root).violations := by simp [hreported]
  exact ⟨hmem, (schema_faults_justified .empty .null root).1 circular hmem⟩

end Validation

end TreeSchema
