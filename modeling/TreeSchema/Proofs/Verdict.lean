import TreeSchema.Proofs.Meaning
import TreeSchema.Proofs.Nesting

/-!
# The verdict is the meaning

A check finds nothing exactly when the value satisfies the schema
(`isValid_iff_sat`). Each keyword has its lemma: given checks that decide the
subschemas, it finds nothing exactly when its conjunct of `Holds` is true. The
order of the keywords and the early ends of a node leave the verdict alone.
-/

namespace TreeSchema.Validation

-- -----------------------------------------------------------------------------
-- Empty lists of faults

theorem elim_eq_nil {α β : Type} {o : Option α} {g : α → List β} :
    o.elim [] g = [] ↔ ∀ a, o = some a → g a = [] := by
  cases o <;> simp

theorem when_eq_nil {applies : Bool} {fault : Fault} :
    Fault.when applies fault = [] ↔ applies = false := by
  cases applies <;> simp [Fault.when]

theorem violations_eq_nil {f : Frame} {faults : List Fault} :
    f.violations faults = [] ↔ faults = [] := List.map_eq_nil_iff

theorem passes_iff {check : Check} {f : Frame} : passes check f = true ↔ check f = [] :=
  List.isEmpty_iff

theorem countP_eq_one_iff {α : Type} {p : α → Bool} {xs : List α} :
    xs.countP p = 1 ↔ ∃! position : Nat, ∃ x, xs[position]? = some x ∧ p x = true := by
  induction xs with
  | nil => simp [ExistsUnique]
  | cons x xs ih =>
    -- A position in the whole list is the first one, or one in the rest, shifted.
    cases hx : p x with
    | true =>
      rw [List.countP_cons_of_pos hx, Nat.succ_inj, List.countP_eq_zero]
      constructor
      · intro hrest
        refine ⟨0, ⟨x, rfl, hx⟩, ?_⟩
        rintro (_ | position) ⟨y, hy, hpy⟩
        · rfl
        · exact absurd hpy (hrest y (List.mem_of_getElem? hy))
      · rintro ⟨position, -, hunique⟩ y hmem hpy
        obtain ⟨other, hother⟩ := List.getElem?_of_mem hmem
        have hzero := hunique 0 ⟨x, rfl, hx⟩
        have hsucc := hunique (other + 1) ⟨y, hother, hpy⟩
        omega
    | false =>
      rw [List.countP_cons_of_neg (by simp [hx]), ih]
      constructor
      · rintro ⟨position, ⟨y, hy, hpy⟩, hunique⟩
        refine ⟨position + 1, ⟨y, hy, hpy⟩, ?_⟩
        rintro (_ | other) ⟨z, hz, hpz⟩
        · obtain rfl : x = z := Option.some.inj hz
          simp [hx] at hpz
        · exact congrArg (· + 1) (hunique other ⟨z, hz, hpz⟩)
      · rintro ⟨_ | position, ⟨y, hy, hpy⟩, hunique⟩
        · obtain rfl : x = y := Option.some.inj hy
          simp [hx] at hpy
        · refine ⟨position, ⟨y, hy, hpy⟩, fun other ⟨z, hz, hpz⟩ => ?_⟩
          exact Nat.succ_inj.mp (hunique (other + 1) ⟨z, hz, hpz⟩)

theorem repetitionFaults_eq_nil {items : List Value} :
    repetitionFaults items = [] ↔
      items.Pairwise fun earlier later => earlier.equal later = false := by
  simp only [repetitionFaults, List.filterMap_eq_nil_iff, Option.map_eq_none_iff,
    List.findIdx?_eq_none_iff, List.pairwise_iff_getElem]
  constructor
  · intro h i j hi hj hlt
    refine h (items[j], j) (List.mem_zipIdx_iff_getElem?.mpr (List.getElem?_eq_getElem hj)) _ ?_
    exact List.mem_take_iff_getElem.mpr ⟨i, by omega, rfl⟩
  · rintro h ⟨later, position⟩ hmem earlier hearlier
    obtain ⟨hposition, hlater⟩ :=
      List.getElem?_eq_some_iff.mp (List.mem_zipIdx_iff_getElem?.mp hmem)
    obtain ⟨i, hi, rfl⟩ := List.mem_take_iff_getElem.mp hearlier
    rw [← hlater]
    exact h i position (by omega) hposition (by omega)

-- -----------------------------------------------------------------------------
-- Keywords without subschemas

section Faults

variable {node : Members}

theorem limits_eq_nil {least greatest : String} {count : Nat} {tooFew tooMany : Nat → Fault} :
    ((node.count? least).elim [] (fun limit => Fault.when (count < limit) (tooFew limit)) ++
      (node.count? greatest).elim [] fun limit => Fault.when (limit < count) (tooMany limit)) = [] ↔
      WithinLimits node least greatest count := by
  have hcount {keyword : String} {P : Nat → Prop} :
      (∀ limit, node.count? keyword = some limit → P limit) ↔
        ∀ n limit, node.lookup keyword = some (.number n) → n.asCount = some limit → P limit := by
    simp only [Members.count?, Option.bind_eq_some_iff, Members.number?_eq_some]
    refine ⟨fun h n limit hn hlimit => h limit ⟨n, hn, hlimit⟩, fun h limit => ?_⟩
    rintro ⟨n, hn, hlimit⟩
    exact h n limit hn hlimit
  simp only [List.append_eq_nil_iff, elim_eq_nil, when_eq_nil, decide_eq_false_iff_not, Nat.not_lt,
    WithinLimits, hcount]

theorem memberCountFaults_eq_nil {members : Members} : memberCountFaults members node = [] ↔
    WithinLimits node "minProperties" "maxProperties" members.length := limits_eq_nil

theorem itemCountFaults_eq_nil {items : List Value} : itemCountFaults items node = [] ↔
    WithinLimits node "minItems" "maxItems" items.length := limits_eq_nil

theorem stringFaults_eq_nil {s : String} : stringFaults s node = [] ↔ StringHolds s node := by
  unfold stringFaults
  rw [List.append_eq_nil_iff, limits_eq_nil, elim_eq_nil]
  simp only [Members.string?_eq_some]
  constructor
  · rintro ⟨hlength, hpattern⟩
    refine ⟨hlength, fun source hsource => ?_⟩
    have h := hpattern source hsource
    cases hof : Pattern.ofString? source with
    | none => simp [hof] at h
    | some pattern => exact ⟨pattern, rfl, by simpa [hof, when_eq_nil] using h⟩
  · rintro ⟨hlength, hpattern⟩
    refine ⟨hlength, fun source hsource => ?_⟩
    obtain ⟨pattern, hof, hmatch⟩ := hpattern source hsource
    simp [hof, when_eq_nil, hmatch]

theorem minimumFaults_eq_nil {n : Number} : minimumFaults n node = [] ↔
    ∀ limit, node.lookup "minimum" = some (.number limit) → n.compare limit ≠ some .lt ∧
      (node.lookup "exclusiveMinimum" = some (.bool true) → n.compare limit ≠ some .eq) := by
  rw [minimumFaults, elim_eq_nil]
  simp only [Members.number?_eq_some, ← Members.bool?_eq_some]
  refine forall₂_congr fun limit _ => ?_
  rcases n.compare limit with _ | (_ | _ | _) <;> simp [when_eq_nil]

theorem maximumFaults_eq_nil {n : Number} : maximumFaults n node = [] ↔
    ∀ limit, node.lookup "maximum" = some (.number limit) → n.compare limit ≠ some .gt ∧
      (node.lookup "exclusiveMaximum" = some (.bool true) → n.compare limit ≠ some .eq) := by
  rw [maximumFaults, elim_eq_nil]
  simp only [Members.number?_eq_some, ← Members.bool?_eq_some]
  refine forall₂_congr fun limit _ => ?_
  rcases n.compare limit with _ | (_ | _ | _) <;> simp [when_eq_nil]

theorem numberFaults_eq_nil {n : Number} : numberFaults n node = [] ↔ NumberHolds n node := by
  have hexclusive : exclusiveFaults n node = [] ↔
      (∀ limit, node.lookup "exclusiveMinimum" = some (.number limit) →
        n.compare limit ≠ some .lt ∧ n.compare limit ≠ some .eq) ∧
      ∀ limit, node.lookup "exclusiveMaximum" = some (.number limit) →
        n.compare limit ≠ some .gt ∧ n.compare limit ≠ some .eq := by
    simp [exclusiveFaults, elim_eq_nil, when_eq_nil, Members.number?_eq_some]
  have hmultiple : multipleFaults n node = [] ↔
      ∀ divisor, node.lookup "multipleOf" = some (.number divisor) →
        divisor.isPositive = true → n.isMultipleOf divisor = true := by
    simp [multipleFaults, elim_eq_nil, when_eq_nil, Members.number?_eq_some]
  simp only [numberFaults, List.append_eq_nil_iff, minimumFaults_eq_nil, maximumFaults_eq_nil,
    hexclusive, hmultiple]
  constructor
  · rintro ⟨⟨⟨hmin, hmax⟩, hexmin, hexmax⟩, hmult⟩
    exact ⟨hmin, hmax, hexmin, hexmax, hmult⟩
  · rintro ⟨hmin, hmax, hexmin, hexmax, hmult⟩
    exact ⟨⟨⟨hmin, hmax⟩, hexmin, hexmax⟩, hmult⟩

end Faults

-- -----------------------------------------------------------------------------
-- Keywords with subschemas

def Decides (check : Check) (sat : Value → Value → Prop) (node : Members) (f : Frame) : Prop :=
  ∀ schema, node.Subschema schema → ∀ value location, f.Offers value location →
    (check ⟨value, location, schema, f.trail⟩ = [] ↔ sat value schema)

section Keywords

variable {check : Check} {sat : Value → Value → Prop} {node : Members} {f : Frame}

theorem Decides.against (h : Decides check sat node f) {schema : Value}
    (hsub : node.Subschema schema) : check (f.against schema) = [] ↔ sat f.value schema :=
  h schema hsub _ _ .itself

theorem Decides.passes (h : Decides check sat node f) {schema : Value}
    (hsub : node.Subschema schema) :
    passes check (f.against schema) = true ↔ sat f.value schema :=
  passes_iff.trans (h.against hsub)

theorem checkCondition_eq_nil (h : Decides check sat node f) :
    checkCondition check node f = [] ↔ ∀ condition, node.lookup "if" = some condition →
      (sat f.value condition →
        ∀ schema, node.lookup "then" = some schema → sat f.value schema) ∧
      (¬sat f.value condition →
        ∀ schema, node.lookup "else" = some schema → sat f.value schema) := by
  rw [checkCondition, elim_eq_nil]
  refine forall₂_congr fun condition hif => ?_
  have hbranch (keyword : String) (hrole : Role.of keyword = .single) :
      ((node.lookup keyword).elim [] fun schema => check (f.against schema)) = [] ↔
        ∀ schema, node.lookup keyword = some schema → sat f.value schema := by
    rw [elim_eq_nil]
    exact forall₂_congr fun schema hschema => h.against (.ofLookup hschema hrole)
  have hpasses := h.passes (.ofLookup hif rfl)
  by_cases hsat : sat f.value condition
  · simp [hpasses.mpr hsat, hbranch "then" rfl, hsat]
  · have hfails : passes check (f.against condition) = false := by
      simpa [hsat] using hpasses
    simp [hfails, hbranch "else" rfl, hsat]

theorem checkOneOf_eq_nil (h : Decides check sat node f) :
    checkOneOf check node f = [] ↔ ∀ options, node.lookup "oneOf" = some (.array options) →
      ∃! position : Nat, ∃ option, options[position]? = some option ∧ sat f.value option := by
  rw [checkOneOf, elim_eq_nil]
  simp only [Members.items?_eq_some]
  refine forall₂_congr fun options hoptions => ?_
  rw [violations_eq_nil, when_eq_nil, decide_eq_false_iff_not, not_not, countP_eq_one_iff]
  refine existsUnique_congr fun position => exists_congr fun option => ?_
  exact and_congr_right fun hoption =>
    h.passes (.ofItems hoptions (List.mem_of_getElem? hoption) rfl)

theorem checkAllOf_eq_nil (h : Decides check sat node f) :
    checkAllOf check node f = [] ↔ ∀ schemas, node.lookup "allOf" = some (.array schemas) →
      ∀ schema ∈ schemas, sat f.value schema := by
  rw [checkAllOf, elim_eq_nil]
  simp only [Members.items?_eq_some]
  refine forall₂_congr fun schemas hschemas => ?_
  rw [List.flatMap_eq_nil_iff]
  exact forall₂_congr fun schema hmem => h.against (.ofItems hschemas hmem rfl)

theorem checkAnyOf_eq_nil (h : Decides check sat node f) :
    checkAnyOf check node f = [] ↔ ∀ options, node.lookup "anyOf" = some (.array options) →
      ∃ option ∈ options, sat f.value option := by
  rw [checkAnyOf, elim_eq_nil]
  simp only [Members.items?_eq_some]
  refine forall₂_congr fun options hoptions => ?_
  rw [violations_eq_nil, when_eq_nil, Bool.not_eq_false', List.any_eq_true]
  refine exists_congr fun option => and_congr_right fun hmem => ?_
  exact h.passes (.ofItems hoptions hmem rfl)

theorem checkNot_eq_nil (h : Decides check sat node f) :
    checkNot check node f = [] ↔ ∀ negated, node.lookup "not" = some negated →
      ¬sat f.value negated := by
  rw [checkNot, elim_eq_nil]
  refine forall₂_congr fun negated hnot => ?_
  rw [violations_eq_nil, when_eq_nil, ← h.passes (.ofLookup hnot rfl), Bool.not_eq_true]

-- -----------------------------------------------------------------------------
-- Objects

theorem isAdditional_iff {key : String} :
    isAdditional node (patternProperties node) key = true ↔ Additional node key := by
  simp only [isAdditional, Additional, Bool.and_eq_true, Bool.not_eq_true', List.any_eq_false,
    patternProperties, declaredProperties, Assoc.contains, Option.isSome_eq_false_iff,
    Option.isNone_iff_eq_none, List.forall_mem_map, ← Members.members?_eq_some]
  refine and_congr ?_ ?_
  · cases node.members? "properties" <;> simp
  · cases node.members? "patternProperties" with
    | none => simp
    | some patterns => simp [Option.any_eq_true]

theorem checkRequired_eq_nil {members : Members} :
    checkRequired members node f = [] ↔ ∀ keys, node.lookup "required" = some (.array keys) →
      ∀ key, .string key ∈ keys → members.lookup key ≠ none := by
  rw [checkRequired, elim_eq_nil]
  simp only [Members.items?_eq_some]
  refine forall₂_congr fun keys _ => ?_
  simp only [List.map_eq_nil_iff, List.filter_eq_nil_iff, List.mem_filterMap, Assoc.contains]
  constructor
  · intro h key hmem
    simpa using h key ⟨_, hmem, rfl⟩
  · rintro h key ⟨held, hmem, hheld⟩
    cases held with
    | string text =>
      obtain rfl := Option.some.inj hheld
      simpa [Option.ne_none_iff_isSome] using h text hmem
    | _ => simp [Value.asString?] at hheld

theorem checkProperties_eq_nil (h : Decides check sat node f) {members : Members}
    (hvalue : f.value = .object members) :
    checkProperties check members node f = [] ↔
      ∀ declared, node.lookup "properties" = some (.object declared) →
        ∀ key schema, (key, schema) ∈ declared →
          ∀ child, members.lookup key = some child → sat child schema := by
  simp only [checkProperties, declaredProperties, List.flatMap_eq_nil_iff, ← Members.members?_eq_some]
  cases hdeclared : node.members? "properties" with
  | none => simp
  | some declared =>
    simp only [Option.getD_some, Option.some.injEq, forall_eq', Prod.forall, elim_eq_nil]
    refine forall₃_congr fun key schema hmem => forall₂_congr fun child hchild => ?_
    exact h schema (.ofMembers (Members.members?_eq_some.mp hdeclared) hmem rfl) _ _
      (.member hvalue (mem_of_lookup hchild))

theorem checkPatternProperties_eq_nil (h : Decides check sat node f) {members : Members}
    (hvalue : f.value = .object members) :
    checkPatternProperties check members (patternProperties node) f = [] ↔
      ∀ patterns, node.lookup "patternProperties" = some (.object patterns) →
        ∀ source schema, (source, schema) ∈ patterns →
          ∃ pattern, Pattern.ofString? source = some pattern ∧ ∀ key child,
            (key, child) ∈ members → pattern.matchesText key = true → sat child schema := by
  simp only [checkPatternProperties, patternProperties, List.flatMap_eq_nil_iff, List.forall_mem_map,
    ← Members.members?_eq_some]
  cases hpatterns : node.members? "patternProperties" with
  | none => simp
  | some patterns =>
    simp only [Option.getD_some, Option.some.injEq, forall_eq', Prod.forall]
    refine forall₃_congr fun source schema hmem => ?_
    cases Pattern.ofString? source with
    | none => simp
    | some pattern =>
      simp only [List.flatMap_eq_nil_iff, List.mem_filter, Prod.forall, and_imp,
        Option.some.injEq, exists_eq_left']
      refine forall₃_congr fun key child hchild => forall_congr' fun _ => ?_
      exact h schema (.ofMembers (Members.members?_eq_some.mp hpatterns) hmem rfl) _ _
        (.member hvalue hchild)

/-- `false` under `additionalProperties` has a fault of its own, but it is the
schema that nothing satisfies all the same. -/
theorem checkAdditional_eq_nil (h : Decides check sat node f)
    (hbool : ∀ value b, sat value (.bool b) ↔ b = true) {members : Members}
    (hvalue : f.value = .object members) :
    checkAdditional check members node (patternProperties node) f = [] ↔
      ∀ schema, node.lookup "additionalProperties" = some schema →
        ∀ key child, (key, child) ∈ members → Additional node key → sat child schema := by
  rw [checkAdditional, elim_eq_nil]
  refine forall₂_congr fun schema hschema => ?_
  simp only [List.flatMap_eq_nil_iff, List.mem_filter, Prod.forall, and_imp, isAdditional_iff]
  refine forall₃_congr fun key child hchild => forall_congr' fun _ => ?_
  cases schema with
  | bool b => cases b <;> simp [hbool]
  | _ => exact h _ (.ofLookup hschema rfl) _ _ (.member hvalue hchild)

theorem checkObject_eq_nil (h : Decides check sat node f)
    (hbool : ∀ value b, sat value (.bool b) ↔ b = true) {members : Members}
    (hvalue : f.value = .object members) :
    checkObject check members node f = [] ↔ ObjectHolds sat members node := by
  simp only [checkObject, List.append_eq_nil_iff, violations_eq_nil, checkRequired_eq_nil,
    memberCountFaults_eq_nil, checkProperties_eq_nil h hvalue,
    checkPatternProperties_eq_nil h hvalue, checkAdditional_eq_nil h hbool hvalue]
  constructor
  · rintro ⟨⟨⟨⟨hrequired, hsize⟩, hproperties⟩, hpatterns⟩, hadditional⟩
    exact ⟨hrequired, hsize, hproperties, hpatterns, hadditional⟩
  · rintro ⟨hrequired, hsize, hproperties, hpatterns, hadditional⟩
    exact ⟨⟨⟨⟨hrequired, hsize⟩, hproperties⟩, hpatterns⟩, hadditional⟩

-- -----------------------------------------------------------------------------
-- Arrays

theorem checkItems_eq_nil (h : Decides check sat node f) {items : List Value}
    (hvalue : f.value = .array items) :
    checkItems check items node f = [] ↔
      (∀ schema, node.lookup "items" = some schema → (∀ schemas, schema ≠ .array schemas) →
        ∀ item ∈ items, sat item schema) ∧
      ∀ schemas, node.lookup "items" = some (.array schemas) → ∀ (position : Nat) item schema,
        items[position]? = some item → schemas[position]? = some schema → sat item schema := by
  cases hheld : node.lookup "items" with
  | none => simp [checkItems, hheld]
  | some held =>
    cases hitems : held.asItems? with
    | some schemas =>
      obtain rfl := Value.asItems?_eq_some.mp hitems
      have heach (position : Nat) (item schema : Value) (hitem : items[position]? = some item)
          (hschema : schemas[position]? = some schema) :
          check (f.atIndex position item schema) = [] ↔ sat item schema :=
        h schema (.ofListedItems hheld (List.mem_of_getElem? hschema)) _ _ (.item hvalue hitem)
      rw [checkItems_each hheld]
      simp only [Option.some.injEq, forall_eq', Value.array.injEq, ne_eq, false_implies, true_and,
        List.flatMap_eq_nil_iff, Prod.forall, List.mem_zipIdx_iff_getElem?,
        List.getElem?_zip_eq_some]
      constructor
      · intro hall position item schema hitem hschema
        exact (heach position item schema hitem hschema).mp
          (hall item schema position ⟨hitem, hschema⟩)
      · rintro hall item schema position ⟨hitem, hschema⟩
        exact (heach position item schema hitem hschema).mpr
          (hall position item schema hitem hschema)
    | none =>
      have hsingle := Value.asItems?_eq_none.mp hitems
      have hevery (position : Nat) (item : Value) (hitem : items[position]? = some item) :
          check (f.atIndex position item held) = [] ↔ sat item held :=
        h held (.ofSingleItems hheld hsingle) _ _ (.item hvalue hitem)
      rw [checkItems_every hheld hitems]
      simp only [Option.some.injEq, forall_eq', hsingle, false_implies, implies_true, and_true,
        ne_eq, not_false_eq_true, true_implies,
        List.flatMap_eq_nil_iff, Prod.forall, List.mem_zipIdx_iff_getElem?]
      constructor
      · intro hall item hmem
        obtain ⟨position, hitem⟩ := List.getElem?_of_mem hmem
        exact (hevery position item hitem).mp (hall item position hitem)
      · intro hall item position hitem
        exact (hevery position item hitem).mpr (hall item (List.mem_of_getElem? hitem))

theorem checkArray_eq_nil (h : Decides check sat node f) {items : List Value}
    (hvalue : f.value = .array items) :
    checkArray check items node f = [] ↔ ArrayHolds sat items node := by
  have hunique : uniquenessFaults items node = [] ↔ (node.lookup "uniqueItems" = some (.bool true) →
      items.Pairwise fun earlier later => earlier.equal later = false) := by
    rw [uniquenessFaults, ← repetitionFaults_eq_nil, ← Members.bool?_eq_some]
    split <;> simp [*]
  simp only [checkArray, List.append_eq_nil_iff, violations_eq_nil, itemCountFaults_eq_nil,
    hunique, checkItems_eq_nil h hvalue]
  constructor
  · rintro ⟨⟨hsize, hunique⟩, hevery, heach⟩
    exact ⟨hsize, hunique, hevery, heach⟩
  · rintro ⟨hsize, hunique, hevery, heach⟩
    exact ⟨⟨hsize, hunique⟩, hevery, heach⟩

-- -----------------------------------------------------------------------------
-- Nodes

theorem constFaults_eq_nil {value : Value} : constFaults value node = [] ↔
    ∀ expected, node.lookup "const" = some expected → value.equal expected = true := by
  simp [constFaults, elim_eq_nil, when_eq_nil]

theorem enumFaults_eq_nil {value : Value} : enumFaults value node = [] ↔
    ∀ options, node.lookup "enum" = some (.array options) →
      ∃ option ∈ options, value.equal option = true := by
  simp [enumFaults, elim_eq_nil, when_eq_nil, Members.items?_eq_some]

theorem typeFaults_eq_nil {value : Value} : typeFaults value node = [] ↔
    ∀ declared, node.lookup "type" = some declared →
      ValueType.declarationAccepts declared value = true := by
  simp [typeFaults, elim_eq_nil, when_eq_nil]

theorem checkShape_eq_nil (h : Decides check sat node f)
    (hbool : ∀ value b, sat value (.bool b) ↔ b = true) :
    checkShape check node f = [] ↔ (∀ s, f.value = .string s → StringHolds s node) ∧
      (∀ n, f.value = .number n → NumberHolds n node) ∧
      (∀ members, f.value = .object members → ObjectHolds sat members node) ∧
      ∀ items, f.value = .array items → ArrayHolds sat items node := by
  unfold checkShape
  cases hvalue : f.value with
  | string s => simp [violations_eq_nil, stringFaults_eq_nil]
  | number n => simp [violations_eq_nil, numberFaults_eq_nil]
  | object members => simp [checkObject_eq_nil h hbool hvalue]
  | array items => simp [checkArray_eq_nil h hvalue]
  | null => simp
  | bool b => simp

/-- A node whose constant or type is wrong has a fault already, so ending it
there changes nothing about its verdict. -/
theorem checkKeywords_eq_nil (h : Decides check sat node f)
    (hbool : ∀ value b, sat value (.bool b) ↔ b = true) :
    checkKeywords check node f = [] ↔ Holds sat f.value node := by
  have hstop : checkKeywords check node f = [] ↔ checkCondition check node f = [] ∧
      checkOneOf check node f = [] ∧ constFaults f.value node = [] ∧
      enumFaults f.value node = [] ∧ typeFaults f.value node = [] ∧
      checkShape check node f = [] ∧ checkAllOf check node f = [] ∧
      checkAnyOf check node f = [] ∧ checkNot check node f = [] := by
    unfold checkKeywords
    cases hconst : constFaults f.value node with
    | cons => simp [violations_eq_nil]
    | nil =>
      cases htype : typeFaults f.value node with
      | cons => simp [violations_eq_nil]
      | nil => simp [violations_eq_nil]
  rw [hstop, checkCondition_eq_nil h, checkOneOf_eq_nil h, constFaults_eq_nil, enumFaults_eq_nil,
    typeFaults_eq_nil, checkShape_eq_nil h hbool, checkAllOf_eq_nil h, checkAnyOf_eq_nil h,
    checkNot_eq_nil h]
  constructor
  · rintro ⟨hif, hone, hconst, henum, htype, ⟨hstr, hnum, hobj, harr⟩, hall, hany, hnot⟩
    exact ⟨hif, hone, hconst, henum, htype, hstr, hnum, hobj, harr, hall, hany, hnot⟩
  · rintro ⟨hif, hone, hconst, henum, htype, hstr, hnum, hobj, harr, hall, hany, hnot⟩
    exact ⟨hif, hone, hconst, henum, htype, ⟨hstr, hnum, hobj, harr⟩, hall, hany, hnot⟩

end Keywords

-- -----------------------------------------------------------------------------
-- The descent

theorem sat_bool {scope : Scope} {trail : Finset String} {value : Value} {b : Bool} :
    Sat scope trail value (.bool b) ↔ b = true := sat_iff ..

theorem step_eq_nil {scope : Scope} {check : Check} {f : Frame}
    (h : ∀ g, Calls scope f g →
      (check g = [] ↔ Sat scope g.trail.tokens.toFinset g.value g.schema)) :
    step scope check f = [] ↔ Sat scope f.trail.tokens.toFinset f.value f.schema := by
  rw [sat_iff]
  cases hschema : f.schema with
  | object node =>
    cases href : node.lookup "$ref" with
    | none =>
      rw [step_keywords hschema href]
      simp only [Meaning, href]
      refine checkKeywords_eq_nil ?_ fun _ _ => sat_bool
      exact fun schema hsub value location hoffers =>
        h _ (.keyword hschema href hsub hoffers)
    | some reference =>
      rw [step_reference hschema href]
      simp only [Meaning, href]
      cases reference with
      | string token =>
        cases htrail : f.trail.contains token with
        | true =>
          have hmem : token ∈ f.trail.tokens := by simpa [Trail.contains] using htrail
          simp [followReference, htrail, hmem]
        | false =>
          have hmem : token ∉ f.trail.tokens := by simpa [Trail.contains] using htrail
          cases hresolve : Reference.resolve token scope.root scope.registry with
          | none => simp [followReference, htrail, hresolve]
          | some target =>
            rw [followReference_target htrail hresolve,
              h _ (.reference hschema href htrail hresolve)]
            simp [Trail.extend, hmem, hresolve]
      | _ => simp [followReference]
  | bool b => cases b <;> simp [step, hschema, Meaning]
  | _ => simp [step, hschema, Meaning]

theorem check_eq_nil {scope : Scope} {bound : Nat} {f : Frame} (h : Admits scope f)
    (hbound : remaining scope f ≤ bound) :
    check scope bound f = [] ↔ Sat scope f.trail.tokens.toFinset f.value f.schema := by
  induction bound generalizing f with
  | zero =>
    have := remaining_pos scope f
    omega
  | succ bound ih =>
    refine step_eq_nil fun g hcall => ih (h.call hcall) ?_
    have := remaining_lt h hcall
    omega

theorem validate_isValid {registry : Registry} {value root : Value} :
    (registry.validate value root).isValid = true ↔ Sat ⟨root, registry⟩ ∅ value root :=
  passes_iff.trans (check_eq_nil (admits_start value) (remaining_start_le_nestingBound _ value))

/-- A value is valid against a schema exactly when it satisfies it. `Sat` is
the only predicate with the meaning that `Meaning` gives to each schema, where
the keywords form a conjunction. -/
theorem isValid_iff_sat (registry : Registry) (value root : Value) :
    let scope : Scope := ⟨root, registry⟩
    (∀ sat : Finset String → Value → Value → Prop,
      (∀ trail value schema, sat trail value schema ↔ Meaning scope sat trail value schema) ↔
        sat = Sat scope) ∧
    ((registry.validate value root).isValid = true ↔ Sat scope ∅ value root) := by
  intro scope
  refine ⟨fun sat => ⟨fun h => ?_, ?_⟩, validate_isValid⟩
  · funext trail value schema
    exact propext (sat_unique h trail value schema)
  · rintro rfl
    exact sat_iff scope

end TreeSchema.Validation
