import TreeSchema.Proofs.Keywords
import TreeSchema.Proofs.Subschema

/-!
# What one frame asks for

`Calls` says which frames a frame may ask for. `step_congr`: it reads the
answers to no others. `checkKeywords_congrUpTo` compares two nodes, frame and
trail included: the violations of the nodes compare as the answers for
corresponding subschemas do. For a predicate it is enough that the verdicts
agree. Equality is the comparison in `checkKeywords_congrBy`.
-/

namespace TreeSchema.Validation

inductive Frame.Offers (f : Frame) : Value → Location → Prop
  | itself : f.Offers f.value f.location
  | member {members : Members} {key : String} {child : Value} :
      f.value = .object members → (key, child) ∈ members →
      f.Offers child (.key f.location key)
  | item {items : List Value} {position : Nat} {item : Value} :
      f.value = .array items → items[position]? = some item →
      f.Offers item (.index f.location position)

theorem Frame.Offers.congr {f f' : Frame} {value : Value} {location : Location}
    (h : f.Offers value location) (hvalue : f.value = f'.value)
    (hlocation : f.location = f'.location) : f'.Offers value location := by
  cases h with
  | itself => exact hvalue ▸ hlocation ▸ .itself
  | member hmembers hmem => exact hlocation ▸ .member (hvalue ▸ hmembers) hmem
  | item hitems hget => exact hlocation ▸ .item (hvalue ▸ hitems) hget

/-- A reference asks for its target, with its token on the trail. Any other
node may ask for each of its subschemas, about each value it is offered. -/
inductive Calls (scope : Scope) (f : Frame) : Frame → Prop
  | reference {node : Members} {token : String} {target : Value} :
      f.schema = .object node → node.lookup "$ref" = some (.string token) →
      f.trail.contains token = false →
      Reference.resolve token scope.root scope.registry = some target →
      Calls scope f { f with schema := target, trail := f.trail.extend token }
  | keyword {node : Members} {schema value : Value} {location : Location} :
      f.schema = .object node → node.lookup "$ref" = none →
      node.Subschema schema → f.Offers value location →
      Calls scope f ⟨value, location, schema, f.trail⟩

-- -----------------------------------------------------------------------------
-- Related lists

section Lists

variable {α β γ δ : Type} {R : α → β → Prop} {xs : List α} {ys : List β}

theorem rel_elim {T : γ → δ → Prop} {g : α → γ} {g' : β → δ} {c : γ} {d : δ} {x : Option α}
    {y : Option β} (h : Option.Rel R x y) (hnone : T c d) (hsome : ∀ a b, R a b → T (g a) (g' b)) :
    T (x.elim c g) (y.elim d g') := by
  cases h with
  | none => exact hnone
  | some hab => exact hsome _ _ hab

theorem getD_related {a : α} {b : β} {x : Option α} {y : Option β} (h : Option.Rel R x y)
    (hab : R a b) : R (x.getD a) (y.getD b) := by
  cases h with
  | none => exact hab
  | some hxy => exact hxy

theorem isSome_congr {x : Option α} {y : Option β} (h : Option.Rel R x y) :
    x.isSome = y.isSome := by
  cases h <;> rfl

theorem any_congr {p : α → Bool} {q : β → Bool} (h : List.Forall₂ R xs ys)
    (hp : ∀ a b, R a b → p a = q b) : xs.any p = ys.any q := by
  induction h with
  | nil => rfl
  | cons hab _ ih => simp only [List.any_cons, hp _ _ hab, ih]

theorem countP_congr {p : α → Bool} {q : β → Bool} (h : List.Forall₂ R xs ys)
    (hp : ∀ a b, R a b → p a = q b) : xs.countP p = ys.countP q := by
  induction h with
  | nil => rfl
  | cons hab _ ih => simp only [List.countP_cons, hp _ _ hab, ih]

theorem zipIdx_zip_related {items : List γ} (h : List.Forall₂ R xs ys) :
    List.Forall₂ (fun entry entry' => entry.1.1 = entry'.1.1 ∧ entry.2 = entry'.2 ∧
      items[entry.2]? = some entry.1.1 ∧ R entry.1.2 entry'.1.2)
      (items.zip xs).zipIdx (items.zip ys).zipIdx := by
  obtain ⟨hlength, hget⟩ := List.forall₂_iff_get.mp h
  refine List.forall₂_iff_get.mpr ⟨by simp [hlength], fun i hi hi' => ?_⟩
  simp only [List.length_zipIdx, List.length_zip, Nat.lt_min] at hi hi'
  simpa [hi.1] using hget i hi.2 hi'.2

end Lists

-- -----------------------------------------------------------------------------
-- Two nodes with comparable answers

/-- Whether the subschemas of a keyword are asked for a verdict only. -/
def isPredicate : String → Bool
  | "if" | "oneOf" | "anyOf" | "not" => true
  | _ => false

theorem bool_congr {schema schema' : Value}
    (h : schema = schema' ∨ ∃ node node', schema = .object node ∧ schema' = .object node')
    (b : Bool) : schema = .bool b ↔ schema' = .bool b := by
  obtain rfl | ⟨_, _, rfl, rfl⟩ := h
  · rfl
  · simp

/-- Two frames about the same value, with checks that give the same answer for
schemas related under a keyword, or the same verdict where the keyword asks for
no more. -/
structure AgreeBy (R : String → Value → Value → Prop) (check check' : Check) (f f' : Frame) :
    Prop where
  value : f.value = f'.value
  location : f.location = f'.location
  bool {schema schema' : Value} : R "additionalProperties" schema schema' →
    ∀ b, schema = .bool b ↔ schema' = .bool b
  answer {keyword : String} {schema schema' value : Value} {location : Location} :
    R keyword schema schema' → isPredicate keyword = false → f.Offers value location →
    check ⟨value, location, schema, f.trail⟩ = check' ⟨value, location, schema', f'.trail⟩
  verdict {keyword : String} {schema schema' : Value} :
    R keyword schema schema' → isPredicate keyword = true →
    passes check (f.against schema) = passes check' (f'.against schema')

structure Agree (R : Value → Value → Prop) (check check' : Check) (f f' : Frame) : Prop where
  value : f.value = f'.value
  location : f.location = f'.location
  bool {schema schema' : Value} : R schema schema' → ∀ b, schema = .bool b ↔ schema' = .bool b
  answer {schema schema' value : Value} {location : Location} : R schema schema' →
    f.Offers value location →
    check ⟨value, location, schema, f.trail⟩ = check' ⟨value, location, schema', f'.trail⟩

/-- A comparison of lists of violations that is made part by part and tells an
empty list from others. -/
structure Cumulative (E : List Violation → List Violation → Prop) : Prop where
  nil : E [] []
  append {found found' later later' : List Violation} : E found found' → E later later' →
    E (found ++ later) (found' ++ later')
  isEmpty {found found' : List Violation} : E found found' → found.isEmpty = found'.isEmpty

theorem cumulative_eq : Cumulative Eq :=
  ⟨rfl, fun h h' => by rw [h, h'], fun h => by rw [h]⟩

namespace Cumulative

variable {E : List Violation → List Violation → Prop} {α β : Type} {R : α → β → Prop} {xs : List α}
  {ys : List β}

theorem flatMap (hE : Cumulative E) {g : α → List Violation} {g' : β → List Violation}
    (h : List.Forall₂ R xs ys) (hg : ∀ x y, R x y → E (g x) (g' y)) :
    E (xs.flatMap g) (ys.flatMap g') := by
  induction h with
  | nil => exact hE.nil
  | cons hxy _ ih => exact hE.append (hg _ _ hxy) ih

theorem flatMap_same (hE : Cumulative E) {g g' : α → List Violation}
    (hg : ∀ x ∈ xs, E (g x) (g' x)) : E (xs.flatMap g) (xs.flatMap g') :=
  hE.flatMap (R := fun x y => E (g x) (g' y)) (List.forall₂_same.mpr hg) fun _ _ => id

theorem map (hE : Cumulative E) {g g' : α → Violation} (xs : List α)
    (hg : ∀ x, E [g x] [g' x]) : E (xs.map g) (xs.map g') := by
  simp only [List.map_eq_flatMap]
  exact hE.flatMap_same fun x _ => hg x

end Cumulative

/-- Agreement up to a comparison: what the frames report themselves and what the
checks answer for related schemas compares under `E`. -/
structure AgreeUpTo (E : List Violation → List Violation → Prop)
    (R : String → Value → Value → Prop) (check check' : Check) (f f' : Frame) : Prop
    extends Cumulative E where
  value : f.value = f'.value
  violation (fault : Fault) : E [f.violation fault] [f'.violation fault]
  violationAt (key : String) (fault : Fault) :
    E [⟨.key f.location key, fault⟩] [⟨.key f'.location key, fault⟩]
  bool {schema schema' : Value} : R "additionalProperties" schema schema' →
    ∀ b, schema = .bool b ↔ schema' = .bool b
  against {keyword : String} {schema schema' : Value} :
    R keyword schema schema' → isPredicate keyword = false →
    E (check (f.against schema)) (check' (f'.against schema'))
  atKey {keyword key : String} {schema schema' child : Value} {members : Members} :
    f.value = .object members → (key, child) ∈ members → isPredicate keyword = false →
    R keyword schema schema' →
    E (check (f.atKey key child schema)) (check' (f'.atKey key child schema'))
  atIndex {keyword : String} {schema schema' item : Value} {items : List Value} {position : Nat} :
    f.value = .array items → items[position]? = some item → isPredicate keyword = false →
    R keyword schema schema' →
    E (check (f.atIndex position item schema)) (check' (f'.atIndex position item schema'))
  verdict {keyword : String} {schema schema' : Value} :
    R keyword schema schema' → isPredicate keyword = true →
    passes check (f.against schema) = passes check' (f'.against schema')

namespace AgreeUpTo

variable {E : List Violation → List Violation → Prop} {R : String → Value → Value → Prop}
  {check check' : Check} {f f' : Frame}

theorem violations (h : AgreeUpTo E R check check' f f') (faults : List Fault) :
    E (f.violations faults) (f'.violations faults) :=
  h.map faults h.violation

theorem ofAnswers (hE : Cumulative E) (hrefl : ∀ found, E found found) (hvalue : f.value = f'.value)
    (hlocation : f.location = f'.location)
    (hbool : ∀ {schema schema' : Value}, R "additionalProperties" schema schema' →
      ∀ b, schema = .bool b ↔ schema' = .bool b)
    (hanswer : ∀ {keyword : String} {schema schema' value : Value} {location : Location},
      R keyword schema schema' → isPredicate keyword = false → f.Offers value location →
      E (check ⟨value, location, schema, f.trail⟩) (check' ⟨value, location, schema', f'.trail⟩))
    (hverdict : ∀ {keyword : String} {schema schema' : Value}, R keyword schema schema' →
      isPredicate keyword = true →
      passes check (f.against schema) = passes check' (f'.against schema')) :
    AgreeUpTo E R check check' f f' where
  toCumulative := hE
  value := hvalue
  violation fault := by simpa only [Frame.violation, hlocation] using hrefl _
  violationAt key fault := by simpa only [hlocation] using hrefl _
  bool := hbool
  against hR hkeyword := by
    simpa only [Frame.against, hvalue, hlocation] using hanswer hR hkeyword .itself
  atKey hobject hmem hkeyword hR := by
    simpa only [Frame.atKey, hlocation] using hanswer hR hkeyword (.member hobject hmem)
  atIndex harray hitem hkeyword hR := by
    simpa only [Frame.atIndex, hlocation] using hanswer hR hkeyword (.item harray hitem)
  verdict := hverdict

theorem ofAnswer {R : Value → Value → Prop} (hE : Cumulative E) (hrefl : ∀ found, E found found)
    (hvalue : f.value = f'.value) (hlocation : f.location = f'.location)
    (hbool : ∀ {schema schema' : Value}, R schema schema' →
      ∀ b, schema = .bool b ↔ schema' = .bool b)
    (hanswer : ∀ {schema schema' value : Value} {location : Location}, R schema schema' →
      f.Offers value location →
      E (check ⟨value, location, schema, f.trail⟩) (check' ⟨value, location, schema', f'.trail⟩)) :
    AgreeUpTo E (fun _ => R) check check' f f' := by
  refine .ofAnswers hE hrefl hvalue hlocation hbool (fun hR _ => hanswer hR) fun hR _ => ?_
  have hempty := hE.isEmpty (hanswer hR .itself)
  simpa only [passes, Frame.against, hvalue, hlocation] using hempty

end AgreeUpTo

section Keywords

variable {E : List Violation → List Violation → Prop} {R : String → Value → Value → Prop}
  {check check' : Check} {f f' : Frame} {node node' : Members} {keyword : String}
  {schema schema' : Value}

theorem AgreeBy.upTo (h : AgreeBy R check check' f f') : AgreeUpTo Eq R check check' f f' :=
  .ofAnswers cumulative_eq (fun _ => rfl) h.value h.location h.bool h.answer h.verdict

theorem checkCondition_congr (h : AgreeUpTo E R check check' f f') (hn : node.RelatedBy R node') :
    E (checkCondition check node f) (checkCondition check' node' f') := by
  refine rel_elim (hn.lookup "if" rfl) h.nil fun condition condition' hif => ?_
  simp only [h.verdict hif rfl]
  cases passes check' (f'.against condition') with
  | false => exact rel_elim (hn.lookup "else" rfl) h.nil fun _ _ hR => h.against hR rfl
  | true => exact rel_elim (hn.lookup "then" rfl) h.nil fun _ _ hR => h.against hR rfl

theorem checkOneOf_congr (h : AgreeUpTo E R check check' f f') (hn : node.RelatedBy R node') :
    E (checkOneOf check node f) (checkOneOf check' node' f') := by
  refine rel_elim (hn.items? "oneOf" rfl) h.nil fun options options' hoptions => ?_
  simp only [countP_congr hoptions fun _ _ hoption => h.verdict hoption rfl]
  exact h.violations _

theorem checkAllOf_congr (h : AgreeUpTo E R check check' f f') (hn : node.RelatedBy R node') :
    E (checkAllOf check node f) (checkAllOf check' node' f') :=
  rel_elim (hn.items? "allOf" rfl) h.nil fun _ _ hschemas =>
    h.flatMap hschemas fun _ _ hR => h.against hR rfl

theorem checkAnyOf_congr (h : AgreeUpTo E R check check' f f') (hn : node.RelatedBy R node') :
    E (checkAnyOf check node f) (checkAnyOf check' node' f') := by
  refine rel_elim (hn.items? "anyOf" rfl) h.nil fun options options' hoptions => ?_
  simp only [any_congr hoptions fun _ _ hoption => h.verdict hoption rfl]
  exact h.violations _

theorem checkNot_congr (h : AgreeUpTo E R check check' f f') (hn : node.RelatedBy R node') :
    E (checkNot check node f) (checkNot check' node' f') := by
  refine rel_elim (hn.lookup "not" rfl) h.nil fun negated negated' hnot => ?_
  simp only [h.verdict hnot rfl]
  exact h.violations _

theorem declaredProperties_related (hn : node.RelatedBy R node') :
    List.Forall₂ (RelatedEntry fun _ => R "properties") (declaredProperties node)
      (declaredProperties node') :=
  getD_related (hn.members? "properties" rfl) .nil

theorem patternProperties_related (hn : node.RelatedBy R node') :
    List.Forall₂ (fun entry entry' => entry.1 = entry'.1 ∧ entry.2.1 = entry'.2.1 ∧
      R "patternProperties" entry.2.2 entry'.2.2) (patternProperties node) (patternProperties node') := by
  have hrel := getD_related (hn.members? "patternProperties" rfl) .nil
  refine List.forall₂_map_left_iff.mpr (List.forall₂_map_right_iff.mpr (hrel.imp ?_))
  rintro ⟨source, schema⟩ ⟨source', schema'⟩ ⟨rfl, hR⟩
  exact ⟨rfl, rfl, hR⟩

theorem isAdditional_congr (hn : node.RelatedBy R node') (key : String) :
    isAdditional node (patternProperties node) key =
      isAdditional node' (patternProperties node') key := by
  have hdeclared : Assoc.contains (declaredProperties node) key =
      Assoc.contains (declaredProperties node') key :=
    isSome_congr (lookup_related (declaredProperties_related hn) key)
  simp only [isAdditional, hdeclared]
  rw [any_congr (patternProperties_related hn) fun _ _ hentry => by rw [hentry.2.1]]

theorem checkRequired_congr (h : AgreeUpTo E R check check' f f') (hn : node.RelatedBy R node')
    (members : Members) : E (checkRequired members node f) (checkRequired members node' f') := by
  simp only [checkRequired, Members.items?, hn.lookup_eq "required" rfl]
  cases (node'.lookup "required").bind Value.asItems? with
  | none => exact h.nil
  | some required => exact h.map _ fun key => h.violationAt key _

theorem checkProperties_congr (h : AgreeUpTo E R check check' f f') (hn : node.RelatedBy R node')
    {members : Members} (hvalue : f.value = .object members) :
    E (checkProperties check members node f) (checkProperties check' members node' f') := by
  refine h.flatMap (declaredProperties_related hn) ?_
  rintro ⟨key, schema⟩ ⟨key', schema'⟩ ⟨rfl, hR⟩
  cases hchild : members.lookup key with
  | none => simpa [hchild] using h.nil
  | some child => simpa [hchild] using h.atKey hvalue (mem_of_lookup hchild) rfl hR

theorem checkPatternProperties_congr (h : AgreeUpTo E R check check' f f')
    (hn : node.RelatedBy R node') {members : Members} (hvalue : f.value = .object members) :
    E (checkPatternProperties check members (patternProperties node) f)
      (checkPatternProperties check' members (patternProperties node') f') := by
  refine h.flatMap (patternProperties_related hn) ?_
  rintro ⟨source, pattern?, schema⟩ ⟨source', pattern?', schema'⟩ ⟨rfl, rfl, hR⟩
  cases pattern? with
  | none => exact h.violation _
  | some pattern =>
    refine h.flatMap_same fun ⟨key, child⟩ hmem => ?_
    exact h.atKey hvalue (List.mem_filter.mp hmem).1 rfl hR

theorem checkAdditional_congr (h : AgreeUpTo E R check check' f f') (hn : node.RelatedBy R node')
    {members : Members} (hvalue : f.value = .object members) :
    E (checkAdditional check members node (patternProperties node) f)
      (checkAdditional check' members node' (patternProperties node') f') := by
  refine rel_elim (hn.lookup "additionalProperties" rfl) h.nil fun additional additional' hR => ?_
  simp only [isAdditional_congr hn]
  refine h.flatMap_same fun ⟨key, child⟩ hmem => ?_
  have hcheck := h.atKey hvalue (List.mem_filter.mp hmem).1 rfl hR
  have hbool := h.bool hR
  cases additional with
  | bool b =>
    obtain rfl := (hbool b).mp rfl
    cases b with
    | false => exact h.violationAt key _
    | true => exact h.nil
  | _ =>
    cases additional' with
    | bool b => exact nomatch (hbool b).mpr rfl
    | _ => exact hcheck

theorem checkItems_each {items schemas : List Value}
    (hheld : node.lookup "items" = some (.array schemas)) :
    checkItems check items node f = (items.zip schemas).zipIdx.flatMap
      fun ((item, schema), position) => check (f.atIndex position item schema) := by
  simp only [checkItems, hheld, Option.elim_some]

theorem checkItems_every {items : List Value} (hheld : node.lookup "items" = some schema)
    (hsingle : schema.asItems? = none) :
    checkItems check items node f =
      items.zipIdx.flatMap fun (item, position) => check (f.atIndex position item schema) := by
  cases schema with
  | array => simp [Value.asItems?] at hsingle
  | _ => simp only [checkItems, hheld, Option.elim_some]

theorem checkItems_congr (h : AgreeUpTo E R check check' f f') (hn : node.RelatedBy R node')
    {items : List Value} (hvalue : f.value = .array items) :
    E (checkItems check items node f) (checkItems check' items node' f') := by
  have hrel : Option.Rel (Role.singleOrList.Related (R "items")) _ _ := hn "items"
  generalize hheld : node.lookup "items" = held? at hrel
  generalize hheld' : node'.lookup "items" = held'? at hrel
  cases hrel with
  | none => simpa only [checkItems, hheld, hheld', Option.elim_none] using h.nil
  | some hrel =>
    cases hrel with
    | each hlisted =>
      rw [checkItems_each hheld, checkItems_each hheld']
      refine h.flatMap (zipIdx_zip_related hlisted) ?_
      rintro ⟨⟨item, schema⟩, position⟩ ⟨⟨item', schema'⟩, position'⟩ ⟨rfl, rfl, hitem, hR⟩
      exact h.atIndex hvalue hitem rfl hR
    | every hsingle hsingle' hR =>
      rw [checkItems_every hheld hsingle, checkItems_every hheld' hsingle']
      refine h.flatMap_same fun ⟨_, _⟩ hmem => ?_
      exact h.atIndex hvalue (List.mem_zipIdx_iff_getElem?.mp hmem) rfl hR

-- -----------------------------------------------------------------------------
-- The node as a whole

theorem lookup_dataKeyword (hn : node.RelatedBy R node') :
    ∀ keyword ∈ dataKeywords, node.lookup keyword = node'.lookup keyword := by
  have hrole : ∀ keyword ∈ dataKeywords, Role.of keyword = .data := by decide
  exact fun keyword hmem => hn.lookup_eq keyword (hrole keyword hmem)

theorem checkObject_congr (h : AgreeUpTo E R check check' f f') (hn : node.RelatedBy R node')
    {members : Members} (hvalue : f.value = .object members) :
    E (checkObject check members node f) (checkObject check' members node' f') := by
  simp only [checkObject, memberCountFaults_congr (lookup_dataKeyword hn)]
  refine h.append (h.append (h.append (h.append ?_ (h.violations _)) ?_) ?_) ?_
  · exact checkRequired_congr h hn members
  · exact checkProperties_congr h hn hvalue
  · exact checkPatternProperties_congr h hn hvalue
  · exact checkAdditional_congr h hn hvalue

theorem checkArray_congr (h : AgreeUpTo E R check check' f f') (hn : node.RelatedBy R node')
    {items : List Value} (hvalue : f.value = .array items) :
    E (checkArray check items node f) (checkArray check' items node' f') := by
  have hdata := lookup_dataKeyword hn
  simp only [checkArray, itemCountFaults_congr hdata, uniquenessFaults_congr hdata]
  exact h.append (h.violations _) (checkItems_congr h hn hvalue)

theorem checkShape_congr (h : AgreeUpTo E R check check' f f') (hn : node.RelatedBy R node') :
    E (checkShape check node f) (checkShape check' node' f') := by
  unfold checkShape
  rw [← h.value]
  cases hvalue : f.value with
  | string s => simpa only [stringFaults_congr (lookup_dataKeyword hn)] using h.violations _
  | number n => simpa only [numberFaults_congr (lookup_dataKeyword hn)] using h.violations _
  | object members => exact checkObject_congr h hn hvalue
  | array items => exact checkArray_congr h hn hvalue
  | null => exact h.nil
  | bool b => exact h.nil

theorem checkKeywords_congrUpTo (h : AgreeUpTo E R check check' f f')
    (hn : node.RelatedBy R node') :
    E (checkKeywords check node f) (checkKeywords check' node' f') := by
  have hdata := lookup_dataKeyword hn
  simp only [checkKeywords, h.value, constFaults_congr hdata, enumFaults_congr hdata,
    typeFaults_congr hdata]
  refine h.append (h.append (checkCondition_congr h hn) (checkOneOf_congr h hn)) ?_
  cases constFaults f'.value node' with
  | cons => exact h.violations _
  | nil =>
    refine h.append (h.violations _) ?_
    cases typeFaults f'.value node' with
    | cons => exact h.violations _
    | nil =>
      have hshape := h.append (checkShape_congr h hn) (checkAllOf_congr h hn)
      exact h.append (h.append hshape (checkAnyOf_congr h hn)) (checkNot_congr h hn)

theorem checkKeywords_congrBy (h : AgreeBy R check check' f f') (hn : node.RelatedBy R node') :
    checkKeywords check node f = checkKeywords check' node' f' :=
  checkKeywords_congrUpTo h.upTo hn

theorem checkKeywords_congr {R : Value → Value → Prop} (h : Agree R check check' f f')
    (hn : node.Related R node') : checkKeywords check node f = checkKeywords check' node' f' :=
  checkKeywords_congrUpTo
    (.ofAnswer cumulative_eq (fun _ => rfl) h.value h.location h.bool h.answer) hn.relatedBy

end Keywords

-- -----------------------------------------------------------------------------
-- One step

section Step

variable {scope : Scope} {check check' : Check} {f : Frame} {node : Members}

theorem step_reference {reference : Value} (hschema : f.schema = .object node)
    (href : node.lookup "$ref" = some reference) :
    step scope check f = followReference scope check reference f := by
  simp only [step, hschema, href]

theorem step_keywords (hschema : f.schema = .object node) (href : node.lookup "$ref" = none) :
    step scope check f = checkKeywords check node f := by
  simp only [step, hschema, href]

theorem step_leaf {scope' : Scope} {f' : Frame} (hleaf : ∀ node, f.schema ≠ .object node)
    (hschema : f.schema = f'.schema) (hlocation : f.location = f'.location) :
    step scope check f = step scope' check' f' := by
  simp only [step, ← hschema, Frame.violation, hlocation]
  cases hf : f.schema with
  | object node => exact absurd hf (hleaf node)
  | bool b => cases b <;> rfl
  | _ => rfl

theorem followReference_target {token : String} {target : Value}
    (htrail : f.trail.contains token = false)
    (hresolve : Reference.resolve token scope.root scope.registry = some target) :
    followReference scope check (.string token) f =
      check { f with schema := target, trail := f.trail.extend token } := by
  simp [followReference, htrail, hresolve]

/-- A step reads the answers for the frames that it may ask for, and no
others. -/
theorem step_congr (h : ∀ g, Calls scope f g → check g = check' g) :
    step scope check f = step scope check' f := by
  cases hschema : f.schema with
  | object node =>
    cases href : node.lookup "$ref" with
    | none =>
      rw [step_keywords hschema href, step_keywords hschema href]
      refine checkKeywords_congr (R := fun schema schema' =>
        schema = schema' ∧ Members.Subschema node schema) ?_
        (Members.related_refl fun _ hsub => ⟨rfl, hsub⟩)
      refine ⟨rfl, rfl, fun hR _ => by rw [hR.1], ?_⟩
      rintro schema _ value location ⟨rfl, hsub⟩ hoffers
      exact h _ (.keyword hschema href hsub hoffers)
    | some reference =>
      rw [step_reference hschema href, step_reference hschema href]
      cases reference with
      | string token =>
        cases htrail : f.trail.contains token with
        | true => simp [followReference, htrail]
        | false =>
          cases hresolve : Reference.resolve token scope.root scope.registry with
          | none => simp [followReference, htrail, hresolve]
          | some target =>
            rw [followReference_target htrail hresolve, followReference_target htrail hresolve]
            exact h _ (.reference hschema href htrail hresolve)
      | _ => rfl
  | _ => exact step_leaf (by simp [hschema]) rfl rfl

end Step

end TreeSchema.Validation
