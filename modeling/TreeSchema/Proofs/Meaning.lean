import Mathlib.Data.Finset.Card
import TreeSchema.Proofs.Subschema

/-!
# What schemas mean

`Sat scope trail value schema`: the value satisfies the schema when the tokens
of `trail` are being followed already. At a node this is the conjunction of the
keywords (`Holds`), each for itself and in no order; at a reference it is the
meaning of the target. `sat_iff` is the equation that says so, and `sat_unique`
that nothing else solves it.
-/

namespace TreeSchema.Validation

-- -----------------------------------------------------------------------------
-- Keywords without subschemas

def WithinLimits (node : Members) (least greatest : String) (count : Nat) : Prop :=
  (∀ n limit, node.lookup least = some (.number n) → n.asCount = some limit → limit ≤ count) ∧
    ∀ n limit, node.lookup greatest = some (.number n) → n.asCount = some limit → count ≤ limit

structure StringHolds (s : String) (node : Members) : Prop where
  length : WithinLimits node "minLength" "maxLength" s.length
  pattern : ∀ source, node.lookup "pattern" = some (.string source) →
    ∃ pattern, Pattern.ofString? source = some pattern ∧ pattern.matchesText s = true

structure NumberHolds (n : Number) (node : Members) : Prop where
  minimum : ∀ limit, node.lookup "minimum" = some (.number limit) → n.compare limit ≠ some .lt ∧
    (node.lookup "exclusiveMinimum" = some (.bool true) → n.compare limit ≠ some .eq)
  maximum : ∀ limit, node.lookup "maximum" = some (.number limit) → n.compare limit ≠ some .gt ∧
    (node.lookup "exclusiveMaximum" = some (.bool true) → n.compare limit ≠ some .eq)
  exclusiveMinimum : ∀ limit, node.lookup "exclusiveMinimum" = some (.number limit) →
    n.compare limit ≠ some .lt ∧ n.compare limit ≠ some .eq
  exclusiveMaximum : ∀ limit, node.lookup "exclusiveMaximum" = some (.number limit) →
    n.compare limit ≠ some .gt ∧ n.compare limit ≠ some .eq
  multipleOf : ∀ divisor, node.lookup "multipleOf" = some (.number divisor) →
    divisor.isPositive = true → n.isMultipleOf divisor = true

-- -----------------------------------------------------------------------------
-- Keywords with subschemas

def Additional (node : Members) (key : String) : Prop :=
  (∀ declared, node.lookup "properties" = some (.object declared) → declared.lookup key = none) ∧
    ∀ patterns, node.lookup "patternProperties" = some (.object patterns) →
      ∀ source schema, (source, schema) ∈ patterns →
        ∀ pattern, Pattern.ofString? source = some pattern → pattern.matchesText key = false

structure ObjectHolds (sat : Value → Value → Prop) (members node : Members) : Prop where
  required : ∀ keys, node.lookup "required" = some (.array keys) →
    ∀ key, .string key ∈ keys → members.lookup key ≠ none
  size : WithinLimits node "minProperties" "maxProperties" members.length
  properties : ∀ declared, node.lookup "properties" = some (.object declared) →
    ∀ key schema, (key, schema) ∈ declared →
      ∀ child, members.lookup key = some child → sat child schema
  patternProperties : ∀ patterns, node.lookup "patternProperties" = some (.object patterns) →
    ∀ source schema, (source, schema) ∈ patterns →
      ∃ pattern, Pattern.ofString? source = some pattern ∧
        ∀ key child, (key, child) ∈ members → pattern.matchesText key = true → sat child schema
  additionalProperties : ∀ schema, node.lookup "additionalProperties" = some schema →
    ∀ key child, (key, child) ∈ members → Additional node key → sat child schema

structure ArrayHolds (sat : Value → Value → Prop) (items : List Value) (node : Members) :
    Prop where
  size : WithinLimits node "minItems" "maxItems" items.length
  unique : node.lookup "uniqueItems" = some (.bool true) →
    items.Pairwise fun earlier later => earlier.equal later = false
  every : ∀ schema, node.lookup "items" = some schema → (∀ schemas, schema ≠ .array schemas) →
    ∀ item ∈ items, sat item schema
  each : ∀ schemas, node.lookup "items" = some (.array schemas) → ∀ (position : Nat) item schema,
    items[position]? = some item → schemas[position]? = some schema → sat item schema

/-- All keywords of a node without a reference. -/
structure Holds (sat : Value → Value → Prop) (value : Value) (node : Members) : Prop where
  condition : ∀ condition, node.lookup "if" = some condition →
    (sat value condition → ∀ schema, node.lookup "then" = some schema → sat value schema) ∧
    (¬sat value condition → ∀ schema, node.lookup "else" = some schema → sat value schema)
  oneOf : ∀ options, node.lookup "oneOf" = some (.array options) →
    ∃! position : Nat, ∃ option, options[position]? = some option ∧ sat value option
  const : ∀ expected, node.lookup "const" = some expected → value.equal expected = true
  enum : ∀ options, node.lookup "enum" = some (.array options) →
    ∃ option ∈ options, value.equal option = true
  type : ∀ declared, node.lookup "type" = some declared →
    ValueType.declarationAccepts declared value = true
  string : ∀ s, value = .string s → StringHolds s node
  number : ∀ n, value = .number n → NumberHolds n node
  object : ∀ members, value = .object members → ObjectHolds sat members node
  array : ∀ items, value = .array items → ArrayHolds sat items node
  allOf : ∀ schemas, node.lookup "allOf" = some (.array schemas) →
    ∀ schema ∈ schemas, sat value schema
  anyOf : ∀ options, node.lookup "anyOf" = some (.array options) →
    ∃ option ∈ options, sat value option
  not : ∀ negated, node.lookup "not" = some negated → ¬sat value negated

/-- The meaning of a schema, given the meaning of the schemas that it leads
to. -/
def Meaning (scope : Scope) (sat : Finset String → Value → Value → Prop) (trail : Finset String)
    (value : Value) : Value → Prop
  | .bool allowed => allowed = true
  | .object node =>
    match node.lookup "$ref" with
    | some (.string token) => token ∉ trail ∧ ∃ target,
      Reference.resolve token scope.root scope.registry = some target ∧
        sat (insert token trail) value target
    | some _ => False
    | none => Holds (sat trail) value node
  | _ => False

-- -----------------------------------------------------------------------------
-- Congruence

section Congruence

variable {sat sat' : Value → Value → Prop} {node : Members}

theorem ObjectHolds.congr {members : Members}
    (h : ∀ schema, node.Subschema schema → ∀ value, sat value schema ↔ sat' value schema)
    (hobject : ObjectHolds sat members node) : ObjectHolds sat' members node where
  required := hobject.required
  size := hobject.size
  properties declared hdeclared key schema hmem child hchild :=
    (h schema (.ofMembers hdeclared hmem rfl) child).mp
      (hobject.properties declared hdeclared key schema hmem child hchild)
  patternProperties patterns hpatterns source schema hmem := by
    obtain ⟨pattern, hsource, hall⟩ :=
      hobject.patternProperties patterns hpatterns source schema hmem
    exact ⟨pattern, hsource, fun key child hchild hmatch =>
      (h schema (.ofMembers hpatterns hmem rfl) child).mp (hall key child hchild hmatch)⟩
  additionalProperties schema hschema key child hchild hadditional :=
    (h schema (.ofLookup hschema rfl) child).mp
      (hobject.additionalProperties schema hschema key child hchild hadditional)

theorem ArrayHolds.congr {items : List Value}
    (h : ∀ schema, node.Subschema schema → ∀ value, sat value schema ↔ sat' value schema)
    (harray : ArrayHolds sat items node) : ArrayHolds sat' items node where
  size := harray.size
  unique := harray.unique
  every schema hschema hsingle item hitem :=
    (h schema (.ofSingleItems hschema hsingle) item).mp
      (harray.every schema hschema hsingle item hitem)
  each schemas hschemas position item schema hitem hschema :=
    (h schema (.ofListedItems hschemas (List.mem_of_getElem? hschema)) item).mp
      (harray.each schemas hschemas position item schema hitem hschema)

theorem Holds.congr {value : Value}
    (h : ∀ schema, node.Subschema schema → ∀ value, sat value schema ↔ sat' value schema)
    (hnode : Holds sat value node) : Holds sat' value node where
  condition condition hif := by
    rw [← h condition (.ofLookup hif rfl) value]
    obtain ⟨hthen, helse⟩ := hnode.condition condition hif
    exact ⟨fun hsat schema hschema => (h schema (.ofLookup hschema rfl) value).mp
        (hthen hsat schema hschema),
      fun hsat schema hschema => (h schema (.ofLookup hschema rfl) value).mp
        (helse hsat schema hschema)⟩
  oneOf options hoptions := by
    refine (existsUnique_congr fun position => exists_congr fun option => ?_).mp
      (hnode.oneOf options hoptions)
    exact and_congr_right fun hoption =>
      h option (.ofItems hoptions (List.mem_of_getElem? hoption) rfl) value
  const := hnode.const
  enum := hnode.enum
  type := hnode.type
  string := hnode.string
  number := hnode.number
  object members hvalue := (hnode.object members hvalue).congr h
  array items hvalue := (hnode.array items hvalue).congr h
  allOf schemas hschemas schema hmem :=
    (h schema (.ofItems hschemas hmem rfl) value).mp (hnode.allOf schemas hschemas schema hmem)
  anyOf options hoptions := by
    obtain ⟨option, hmem, hsat⟩ := hnode.anyOf options hoptions
    exact ⟨option, hmem, (h option (.ofItems hoptions hmem rfl) value).mp hsat⟩
  not negated hnot hsat :=
    hnode.not negated hnot ((h negated (.ofLookup hnot rfl) value).mpr hsat)

variable {scope : Scope} {trail : Finset String} {value schema : Value}

def unusedTokens (scope : Scope) (trail : Finset String) (schema : Value) : Finset String :=
  (scope.tokens ++ schema.stringsUnder "$ref").toFinset \ trail

/-- What decreases from a schema to those that its meaning depends on: a
reference uses up a token, any other node leads to lower schemas. -/
def rank (scope : Scope) (trail : Finset String) (schema : Value) : Nat :=
  (unusedTokens scope trail schema).card * (scope.height + 1) + schema.height

theorem rank_subschema_lt (h : node.Subschema schema) :
    rank scope trail schema < rank scope trail (.object node) := by
  have hsubset : unusedTokens scope trail schema ⊆ unusedTokens scope trail (.object node) := by
    intro token htoken
    simp only [unusedTokens, Finset.mem_sdiff, List.mem_toFinset, List.mem_append] at htoken ⊢
    exact ⟨htoken.1.imp_right fun h' => h.within.1.stringsUnder_subset h', htoken.2⟩
  have hcard := Nat.mul_le_mul_right (scope.height + 1) (Finset.card_le_card hsubset)
  have hheight := h.within.2
  unfold rank
  omega

theorem rank_target_lt {token : String} {target : Value}
    (href : node.lookup "$ref" = some (.string token)) (htrail : token ∉ trail)
    (hresolve : Reference.resolve token scope.root scope.registry = some target) :
    rank scope (insert token trail) target < rank scope trail (.object node) := by
  have hcontains := Scope.contains_of_resolve hresolve
  have hssubset : unusedTokens scope (insert token trail) target ⊂
      unusedTokens scope trail (.object node) := by
    refine Finset.ssubset_iff_of_subset ?_ |>.mpr ⟨token, ?_, ?_⟩
    · intro other hother
      simp only [unusedTokens, Finset.mem_sdiff, List.mem_toFinset, List.mem_append,
        Finset.mem_insert, not_or] at hother ⊢
      exact ⟨.inl (hother.1.elim id fun h => Scope.mem_tokens hcontains h), hother.2.2⟩
    · have := Value.mem_stringsUnder (mem_of_lookup href)
      simp [unusedTokens, htrail, this]
    · simp [unusedTokens]
  have hcard := Nat.mul_le_mul_right (scope.height + 1) (Finset.card_lt_card hssubset)
  have hheight := Scope.height_le hcontains
  rw [Nat.succ_mul] at hcard
  unfold rank
  omega

theorem meaning_congr {sat sat' : Finset String → Value → Value → Prop}
    (h : ∀ trail' value' schema', rank scope trail' schema' < rank scope trail schema →
      (sat trail' value' schema' ↔ sat' trail' value' schema')) :
    Meaning scope sat trail value schema ↔ Meaning scope sat' trail value schema := by
  cases schema with
  | object node =>
    cases href : node.lookup "$ref" with
    | none =>
      have hsub (sub : Value) (hsub : Members.Subschema node sub) (value' : Value) :
          sat trail value' sub ↔ sat' trail value' sub :=
        h trail value' sub (rank_subschema_lt hsub)
      simp only [Meaning, href]
      exact ⟨Holds.congr hsub, Holds.congr fun sub hmem value' => (hsub sub hmem value').symm⟩
    | some reference =>
      cases reference with
      | string token =>
        simp only [Meaning, href]
        refine and_congr_right fun htrail => exists_congr fun target =>
          and_congr_right fun hresolve => ?_
        exact h _ _ _ (rank_target_lt href htrail hresolve)
      | _ => simp only [Meaning, href]
  | _ => rfl

end Congruence

/-- The value satisfies the schema while the tokens of the trail are being
followed. -/
def Sat (scope : Scope) (trail : Finset String) (value schema : Value) : Prop :=
  Meaning scope (fun trail' value' schema' =>
    ∃ _ : rank scope trail' schema' < rank scope trail schema, Sat scope trail' value' schema')
    trail value schema
termination_by rank scope trail schema

/-- `Sat` is the predicate that means at each schema what `Meaning` says. -/
theorem sat_iff (scope : Scope) (trail : Finset String) (value schema : Value) :
    Sat scope trail value schema ↔ Meaning scope (Sat scope) trail value schema := by
  rw [Sat]
  exact meaning_congr fun trail' value' schema' hlt => exists_prop_of_true hlt

theorem sat_unique {scope : Scope} {sat : Finset String → Value → Value → Prop}
    (h : ∀ trail value schema, sat trail value schema ↔ Meaning scope sat trail value schema)
    (trail : Finset String) (value schema : Value) :
    sat trail value schema ↔ Sat scope trail value schema := by
  induction hrank : rank scope trail schema using Nat.strong_induction_on
    generalizing trail value schema with
  | _ _ ih =>
    rw [h, sat_iff]
    exact meaning_congr fun trail' value' schema' hlt =>
      ih _ (hrank ▸ hlt) trail' value' schema' rfl

end TreeSchema.Validation
