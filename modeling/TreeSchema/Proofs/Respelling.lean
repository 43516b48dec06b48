import TreeSchema.Proofs.Equality
import TreeSchema.Proofs.Placement

/-!
# Respelled values

`Value.Respelled` relates trees that differ in the spelling of their numbers
only. Equal values are so related as long as every integer that stands opposite
a double is plain, and no keyword tells them apart: `verdict_respelled`.
-/

namespace TreeSchema

namespace Value

inductive Respelled (divisors : Nat → Prop) : Value → Value → Prop
  | null : Respelled divisors .null .null
  | bool {b : Bool} : Respelled divisors (.bool b) (.bool b)
  | number {n m : Number} : n.Respelled divisors m → Respelled divisors (.number n) (.number m)
  | string {s : String} : Respelled divisors (.string s) (.string s)
  -- Pairs of the zip instead of `Forall₂`: an induction reaches into these.
  | array {xs ys : List Value} : xs.length = ys.length →
      (∀ x y, (x, y) ∈ xs.zip ys → Respelled divisors x y) →
      Respelled divisors (.array xs) (.array ys)
  | object {xs ys : Members} : xs.length = ys.length →
      (∀ x y, (x, y) ∈ xs.zip ys → x.1 = y.1) →
      (∀ x y, (x, y) ∈ xs.zip ys → Respelled divisors x.2 y.2) →
      Respelled divisors (.object xs) (.object ys)

/-- Somewhere one value has the integer where the other has a double. -/
def Opposed (v w : Value) (i : Int) : Prop :=
  ∃ (location : Location) (x : Binary64),
    (v.At location (.number (.integer i)) ∧ w.At location (.number (.double x))) ∨
      (v.At location (.number (.double x)) ∧ w.At location (.number (.integer i)))

variable {divisors : Nat → Prop} {v v' w w' : Value}

-- -----------------------------------------------------------------------------
-- Trees with related parts

theorem Respelled.items {xs ys : List Value} (h : Respelled divisors (.array xs) (.array ys)) :
    List.Forall₂ (Respelled divisors) xs ys := by
  cases h with
  | array hlength hitems => exact List.forall₂_iff_zip.mpr ⟨hlength, fun hmem => hitems _ _ hmem⟩

theorem Respelled.members {xs ys : Members} (h : Respelled divisors (.object xs) (.object ys)) :
    List.Forall₂ (RelatedEntry fun _ => Respelled divisors) xs ys := by
  cases h with
  | object hlength hkeys hchildren =>
    exact List.forall₂_iff_zip.mpr ⟨hlength, fun hmem => ⟨hkeys _ _ hmem, hchildren _ _ hmem⟩⟩

theorem Respelled.ofItems {xs ys : List Value} (h : List.Forall₂ (Respelled divisors) xs ys) :
    Respelled divisors (.array xs) (.array ys) :=
  .array h.length_eq fun _ _ hmem => (List.forall₂_iff_zip.mp h).2 hmem

theorem Respelled.ofMembers {xs ys : Members}
    (h : List.Forall₂ (RelatedEntry fun _ => Respelled divisors) xs ys) :
    Respelled divisors (.object xs) (.object ys) :=
  .object h.length_eq (fun _ _ hmem => ((List.forall₂_iff_zip.mp h).2 hmem).1)
    fun _ _ hmem => ((List.forall₂_iff_zip.mp h).2 hmem).2

theorem Respelled.symm (h : Respelled divisors v w) : Respelled divisors w v := by
  induction h with
  | null => exact .null
  | bool => exact .bool
  | number h => exact .number h.symm
  | string => exact .string
  | array hlength _ ih =>
    have := List.forall₂_iff_zip.mpr ⟨hlength, fun hmem => ih _ _ hmem⟩
    exact .ofItems this.flip
  | object hlength hkeys _ ih =>
    have hentries := List.forall₂_iff_zip.mpr ⟨hlength, fun {x y} hmem =>
      (⟨(hkeys x y hmem).symm, ih x y hmem⟩ : RelatedEntry (fun _ => Respelled divisors) y x)⟩
    exact .ofMembers hentries.flip

theorem Respelled.refl (h : v.WellFormed) : Respelled divisors v v := by
  induction h using WellFormed.induction with
  | null => exact .null
  | bool => exact .bool
  | number n h => exact .number (.refl (h.numbers n .refl))
  | string => exact .string
  | array items _ ih => exact .ofItems (List.forall₂_same.mpr ih)
  | object members _ ih =>
    exact .ofMembers (List.forall₂_same.mpr fun entry hmem => ⟨rfl, ih _ _ hmem⟩)

theorem Respelled.exists_item {xs ys : List Value} (h : Respelled divisors (.array xs) (.array ys))
    {position : Nat} {x : Value} (hx : xs[position]? = some x) :
    ∃ y, ys[position]? = some y ∧ Respelled divisors x y := by
  have hrel := forall₂_getElem? h.items position
  rw [hx] at hrel
  cases hy : ys[position]? with
  | none => simp [hy] at hrel
  | some y => exact ⟨y, rfl, by simpa [hy] using hrel⟩

theorem Respelled.exists_member {xs ys : Members}
    (h : Respelled divisors (.object xs) (.object ys)) {key : String} {x : Value}
    (hmem : (key, x) ∈ xs) : ∃ y, (key, y) ∈ ys ∧ Respelled divisors x y := by
  obtain ⟨position, hposition⟩ := List.getElem?_of_mem hmem
  have hrel := forall₂_getElem? h.members position
  rw [hposition] at hrel
  cases hy : ys[position]? with
  | none => simp [hy] at hrel
  | some entry =>
    obtain ⟨name, y⟩ := entry
    obtain ⟨rfl, hchildren⟩ : key = name ∧ Respelled divisors x y := by
      simpa [hy, RelatedEntry] using hrel
    exact ⟨y, List.mem_of_getElem? hy, hchildren⟩

-- -----------------------------------------------------------------------------
-- Equality

theorem equalItems_congr {xs xs' ys ys' : List Value}
    (hx : List.Forall₂ (fun x x' => ∀ y y', Respelled divisors y y' → x.equal y = x'.equal y') xs xs')
    (hy : List.Forall₂ (Respelled divisors) ys ys') : equalItems xs ys = equalItems xs' ys' := by
  induction hx generalizing ys ys' with
  | nil => cases hy <;> rfl
  | cons hhead _ ih =>
    cases hy with
    | nil => rfl
    | cons hhead' htail' => rw [equalItems, equalItems, hhead _ _ hhead', ih htail']

theorem equalMembers_congr {xs xs' ys ys' : Members}
    (hx : List.Forall₂ (RelatedEntry fun _ x x' => ∀ y y', Respelled divisors y y' →
      x.equal y = x'.equal y') xs xs')
    (hy : List.Forall₂ (RelatedEntry fun _ => Respelled divisors) ys ys') :
    equalMembers xs ys = equalMembers xs' ys' := by
  induction hx with
  | nil => rfl
  | @cons entry entry' _ _ hentry _ ih =>
    obtain ⟨key, x⟩ := entry
    obtain ⟨key', x'⟩ := entry'
    obtain ⟨rfl, hx⟩ := hentry
    rw [equalMembers, equalMembers, ih]
    have hlookup := lookup_related hy key
    generalize ys.lookup key = found at hlookup ⊢
    generalize ys'.lookup key = found' at hlookup ⊢
    cases hlookup with
    | none => rfl
    | some hchild => simp only [hx _ _ hchild]

theorem Respelled.equal (h : Respelled divisors v v') (h' : Respelled divisors w w') :
    v.equal w = v'.equal w' := by
  induction h generalizing w w' with
  | null => cases h' <;> rfl
  | bool => cases h' <;> rfl
  | number h =>
    cases h' with
    | number h' => exact h.equal h'
    | _ => rfl
  | string => cases h' <;> rfl
  | array hlength _ ih =>
    cases h' with
    | array hlength' hitems' =>
      exact equalItems_congr (List.forall₂_iff_zip.mpr ⟨hlength, fun hmem _ _ => ih _ _ hmem⟩)
        (List.forall₂_iff_zip.mpr ⟨hlength', fun hmem => hitems' _ _ hmem⟩)
    | _ => rfl
  | object hlength hkeys _ ih =>
    cases h' with
    | object hlength' hkeys' hchildren' =>
      rw [Value.equal, Value.equal, hlength, hlength']
      refine congrArg _ (equalMembers_congr ?_ (Respelled.object hlength' hkeys' hchildren').members)
      exact List.forall₂_iff_zip.mpr
        ⟨hlength, fun hmem => ⟨hkeys _ _ hmem, fun _ _ => ih _ _ hmem⟩⟩
    | _ => rfl

theorem Respelled.pairwise_not_equal {xs ys : List Value}
    (h : Respelled divisors (.array xs) (.array ys))
    (hx : xs.Pairwise fun earlier later => earlier.equal later = false) :
    ys.Pairwise fun earlier later => earlier.equal later = false := by
  refine List.pairwise_iff_getElem.mpr fun first second hfirst hsecond hlt => ?_
  obtain ⟨x, hx', hrespelled⟩ := h.symm.exists_item (List.getElem?_eq_getElem hfirst)
  obtain ⟨x', hx'', hrespelled'⟩ := h.symm.exists_item (List.getElem?_eq_getElem hsecond)
  rw [hrespelled.equal hrespelled']
  obtain ⟨hfirst', rfl⟩ := List.getElem?_eq_some_iff.mp hx'
  obtain ⟨hsecond', rfl⟩ := List.getElem?_eq_some_iff.mp hx''
  exact List.pairwise_iff_getElem.mp hx first second hfirst' hsecond' hlt

-- -----------------------------------------------------------------------------
-- Equal values

theorem Opposed.of_at {x y : Value} {base : Location} {i : Int} (h : x.Opposed y i)
    (hv : v.At base x) (hw : w.At base y) : v.Opposed w i := by
  obtain ⟨location, d, ⟨hx, hy⟩ | ⟨hx, hy⟩⟩ := h
  · exact ⟨_, d, .inl ⟨hv.trans hx, hw.trans hy⟩⟩
  · exact ⟨_, d, .inr ⟨hv.trans hx, hw.trans hy⟩⟩

theorem respelled_of_equal (hv : v.WellFormed) (hw : w.WellFormed) (h : v.equal w = true)
    (hplain : ∀ i, v.Opposed w i → Number.Plain divisors i) : Respelled divisors v w := by
  refine equal_induction
    (P := fun v w => (∀ i, v.Opposed w i → Number.Plain divisors i) → Respelled divisors v w)
    ?null ?bool ?string ?number ?array ?object hv hw h hplain
  case null => exact fun _ => .null
  case bool => exact fun _ _ => .bool
  case string => exact fun _ _ => .string
  case number =>
    intro n m hn _ h hplain
    refine .number (Number.respelled_of_equal hn h ?_ ?_)
    · rintro i x rfl rfl
      exact hplain i ⟨.root, x, .inl ⟨.root, .root⟩⟩
    · rintro x i rfl rfl
      exact hplain i ⟨.root, x, .inr ⟨.root, .root⟩⟩
  case array =>
    intro xs ys h hplain
    obtain ⟨hlength, hitems⟩ := List.forall₂_iff_zip.mp h
    refine .array hlength fun x y hmem => hitems hmem fun i hopposed => ?_
    obtain ⟨position, hposition⟩ := List.getElem?_of_mem hmem
    obtain ⟨hx, hy⟩ := List.getElem?_zip_eq_some.mp hposition
    exact hplain i (hopposed.of_at (.index .root hx) (.index .root hy))
  case object =>
    intro xs ys _ _ h hplain
    refine .ofMembers (forall₂_imp h ?_)
    rintro ⟨key, x⟩ hx ⟨name, y⟩ hy ⟨rfl, ih⟩
    exact ⟨rfl, ih fun i hopposed => hplain i (hopposed.of_at (.key .root hx) (.key .root hy))⟩

end Value

namespace Validation

def Scope.IntegerDivisor (scope : Scope) (d : Nat) : Prop :=
  ∃ node : Members, scope.Contains (.object node) ∧
    node.number? "multipleOf" = some (.integer d)

-- -----------------------------------------------------------------------------
-- Keywords

section Keywords

variable {scope : Scope} {node : Members} {v w : Value}
  (hdocuments : ∀ document ∈ scope.documents, document.WellFormed)
  (hnode : scope.Contains (.object node))

include hdocuments hnode

theorem inRange_of_contains {keyword : String} {n : Number}
    (hn : node.lookup keyword = some (.number n)) : n.InRange := by
  obtain ⟨document, hmem, hwithin⟩ := hnode
  exact ((hdocuments document hmem).within hwithin).numbers _ (.member (mem_of_lookup hn) .refl)

theorem NumberHolds.respelled {n m : Number} (h : n.Respelled scope.IntegerDivisor m)
    (hn : NumberHolds n node) : NumberHolds m node := by
  have hcompare {keyword : String} {limit : Number}
      (hlimit : node.lookup keyword = some (.number limit)) : m.compare limit = n.compare limit :=
    (h.compare_left (inRange_of_contains hdocuments hnode hlimit)).symm
  constructor
  case minimum =>
    intro limit hlimit
    rw [hcompare hlimit]
    exact hn.minimum limit hlimit
  case maximum =>
    intro limit hlimit
    rw [hcompare hlimit]
    exact hn.maximum limit hlimit
  case exclusiveMinimum =>
    intro limit hlimit
    rw [hcompare hlimit]
    exact hn.exclusiveMinimum limit hlimit
  case exclusiveMaximum =>
    intro limit hlimit
    rw [hcompare hlimit]
    exact hn.exclusiveMaximum limit hlimit
  case multipleOf =>
    intro divisor hdivisor hpos
    rw [← h.isMultipleOf (inRange_of_contains hdocuments hnode hdivisor) hpos
      fun d hd => ⟨node, hnode, Members.number?_eq_some.mpr (hd ▸ hdivisor)⟩]
    exact hn.multipleOf divisor hdivisor hpos

omit hdocuments hnode

theorem accepts_respelled {divisors : Nat → Prop} (h : v.Respelled divisors w)
    (type : ValueType) : type.accepts v = type.accepts w := by
  cases h with
  | number h =>
    cases type with
    | integer => exact h.isWhole
    | _ => rfl
  | _ => cases type <;> rfl

theorem declarationAccepts_respelled {divisors : Nat → Prop} (h : v.Respelled divisors w)
    (declared : Value) :
    ValueType.declarationAccepts declared v = ValueType.declarationAccepts declared w := by
  have hname (name : String) : ValueType.nameAccepts name v = ValueType.nameAccepts name w := by
    simp only [ValueType.nameAccepts, accepts_respelled h]
  simp only [ValueType.declarationAccepts, hname]

section Trees

variable {divisors : Nat → Prop} {sat : Value → Value → Prop}
  (hsat : ∀ schema, node.Subschema schema → ∀ {v w : Value}, v.Respelled divisors w →
    (sat v schema ↔ sat w schema))

include hsat

theorem ObjectHolds.respelled {members members' : Members}
    (h : (Value.object members).Respelled divisors (.object members'))
    (hobject : ObjectHolds sat members node) : ObjectHolds sat members' node := by
  have hlookup (key : String) :
      Option.Rel (Value.Respelled divisors) (members.lookup key) (members'.lookup key) :=
    lookup_related h.members key
  constructor
  case required =>
    intro keys hkeys key hmem hnone
    have hrel := hlookup key
    rw [hnone] at hrel
    cases hmember : members.lookup key with
    | none => exact hobject.required keys hkeys key hmem hmember
    | some child => simp [hmember] at hrel
  case size =>
    rw [← h.members.length_eq]
    exact hobject.size
  case properties =>
    intro declared hdeclared key schema hmem child hchild
    have hrel := hlookup key
    rw [hchild] at hrel
    cases hmember : members.lookup key with
    | none => simp [hmember] at hrel
    | some other =>
      have hchildren : other.Respelled divisors child := by simpa [hmember] using hrel
      exact (hsat schema (.ofMembers hdeclared hmem rfl) hchildren).mp
        (hobject.properties declared hdeclared key schema hmem other hmember)
  case patternProperties =>
    intro patterns hpatterns source schema hmem
    obtain ⟨pattern, hsource, hall⟩ :=
      hobject.patternProperties patterns hpatterns source schema hmem
    refine ⟨pattern, hsource, fun key child hchild hmatch => ?_⟩
    obtain ⟨other, hother, hchildren⟩ := h.symm.exists_member hchild
    exact (hsat schema (.ofMembers hpatterns hmem rfl) hchildren).mpr
      (hall key other hother hmatch)
  case additionalProperties =>
    intro schema hschema key child hchild hadditional
    obtain ⟨other, hother, hchildren⟩ := h.symm.exists_member hchild
    exact (hsat schema (.ofLookup hschema rfl) hchildren).mpr
      (hobject.additionalProperties schema hschema key other hother hadditional)

theorem ArrayHolds.respelled {items items' : List Value}
    (h : (Value.array items).Respelled divisors (.array items'))
    (harray : ArrayHolds sat items node) : ArrayHolds sat items' node := by
  constructor
  case size =>
    rw [← h.items.length_eq]
    exact harray.size
  case unique =>
    intro hunique
    exact h.pairwise_not_equal (harray.unique hunique)
  case every =>
    intro schema hschema hsingle item hitem
    obtain ⟨position, hposition⟩ := List.getElem?_of_mem hitem
    obtain ⟨other, hother, hitems⟩ := h.symm.exists_item hposition
    exact (hsat schema (.ofSingleItems hschema hsingle) hitems).mpr
      (harray.every schema hschema hsingle other (List.mem_of_getElem? hother))
  case each =>
    intro schemas hschemas position item schema hitem hschema
    obtain ⟨other, hother, hitems⟩ := h.symm.exists_item hitem
    exact (hsat schema (.ofListedItems hschemas (List.mem_of_getElem? hschema)) hitems).mpr
      (harray.each schemas hschemas position other schema hother hschema)

end Trees

include hdocuments hnode

theorem Holds.respelled {sat : Value → Value → Prop}
    (hsat : ∀ schema, node.Subschema schema →
      ∀ {v w : Value}, v.Respelled scope.IntegerDivisor w → (sat v schema ↔ sat w schema))
    (h : v.Respelled scope.IntegerDivisor w) (hholds : Holds sat v node) : Holds sat w node := by
  have hsatisfied {schema : Value} (hsub : node.Subschema schema) : sat v schema ↔ sat w schema :=
    hsat schema hsub h
  have hequal {keyword : String} {held : Value} (hheld : node.lookup keyword = some held)
      {constant : Value} (hwithin : constant.Within held) : v.equal constant = w.equal constant := by
    obtain ⟨document, hmem, hdocument⟩ := hnode
    have hconstant : constant.Within document :=
      (hwithin.trans (.member (mem_of_lookup hheld) .refl)).trans hdocument
    exact h.equal (.refl ((hdocuments document hmem).within hconstant))
  constructor
  case condition =>
    intro condition hif
    rw [← hsatisfied (.ofLookup hif rfl)]
    obtain ⟨hthen, helse⟩ := hholds.condition condition hif
    exact ⟨fun hpass schema hschema =>
        (hsatisfied (.ofLookup hschema rfl)).mp (hthen hpass schema hschema),
      fun hfail schema hschema =>
        (hsatisfied (.ofLookup hschema rfl)).mp (helse hfail schema hschema)⟩
  case oneOf =>
    intro options hoptions
    refine (existsUnique_congr fun position => exists_congr fun option => ?_).mp
      (hholds.oneOf options hoptions)
    exact and_congr_right fun hoption =>
      hsatisfied (.ofItems hoptions (List.mem_of_getElem? hoption) rfl)
  case const =>
    intro expected hexpected
    rw [← hequal hexpected .refl]
    exact hholds.const expected hexpected
  case enum =>
    intro options hoptions
    obtain ⟨option, hmem, hoption⟩ := hholds.enum options hoptions
    exact ⟨option, hmem, hequal hoptions (.item hmem .refl) ▸ hoption⟩
  case type =>
    intro declared hdeclared
    rw [← declarationAccepts_respelled h]
    exact hholds.type declared hdeclared
  case string =>
    rintro s rfl
    cases h
    exact hholds.string s rfl
  case number =>
    rintro m rfl
    cases h with
    | number h => exact (hholds.number _ rfl).respelled hdocuments hnode h
  case object =>
    rintro members rfl
    cases hv : v with
    | object => exact (hholds.object _ hv).respelled hsat (hv ▸ h)
    | _ => cases hv ▸ h
  case array =>
    rintro items rfl
    cases hv : v with
    | array => exact (hholds.array _ hv).respelled hsat (hv ▸ h)
    | _ => cases hv ▸ h
  case allOf =>
    intro schemas hschemas schema hmem
    exact (hsatisfied (.ofItems hschemas hmem rfl)).mp
      (hholds.allOf schemas hschemas schema hmem)
  case anyOf =>
    intro options hoptions
    obtain ⟨option, hmem, hoption⟩ := hholds.anyOf options hoptions
    exact ⟨option, hmem, (hsatisfied (.ofItems hoptions hmem rfl)).mp hoption⟩
  case not =>
    intro negated hnegated hpass
    exact hholds.not negated hnegated ((hsatisfied (.ofLookup hnegated rfl)).mpr hpass)

end Keywords

-- -----------------------------------------------------------------------------
-- Verdicts

theorem sat_respelled {scope : Scope} {v w : Value} {trail : Finset String} {schema : Value}
    (hdocuments : ∀ document ∈ scope.documents, document.WellFormed)
    (hschema : scope.Contains schema) (h : v.Respelled scope.IntegerDivisor w) :
    Sat scope trail v schema ↔ Sat scope trail w schema := by
  induction hrank : rank scope trail schema using Nat.strong_induction_on
    generalizing trail v w schema with
  | _ _ ih =>
    -- The induction is on the schema's rank and holds for all respelled values,
    -- so that it covers the parts of a value and both directions at once.
    rw [sat_iff, sat_iff]
    cases schema with
    | object node =>
      cases href : node.lookup "$ref" with
      | none =>
        have hsat (sub : Value) (hsub : Members.Subschema node sub) {v w : Value}
            (h : v.Respelled scope.IntegerDivisor w) : Sat scope trail v sub ↔ Sat scope trail w sub :=
          ih _ (hrank ▸ rank_subschema_lt hsub)
            (Scope.contains_of_within hsub.within.1 hschema) h rfl
        simp only [Meaning, href]
        exact ⟨Holds.respelled hdocuments hschema hsat h,
          Holds.respelled hdocuments hschema hsat h.symm⟩
      | some reference =>
        cases reference with
        | string token =>
          simp only [Meaning, href]
          refine and_congr_right fun htrail => exists_congr fun target =>
            and_congr_right fun hresolve => ?_
          exact ih _ (hrank ▸ rank_target_lt href htrail hresolve)
            (Scope.contains_of_resolve hresolve) h rfl
        | _ => simp only [Meaning, href]
    | _ => simp only [Meaning]

/-- Equal values have the same verdict, however their numbers are spelled, as
long as an integer that stands opposite a double is plain: below `2 ^ 53`, and
divided by each integer divisor in the documents that reaches a third of
`2 ^ 31`. -/
theorem verdict_respelled (registry : Registry) (root v w : Value)
    (hdocuments : ∀ document ∈ (⟨root, registry⟩ : Scope).documents, document.WellFormed)
    (hv : v.WellFormed) (hw : w.WellFormed) (hequal : v.equal w = true)
    (hplain : ∀ i, v.Opposed w i → Number.Plain (Scope.IntegerDivisor ⟨root, registry⟩) i) :
    (registry.validate v root).isValid = (registry.validate w root).isValid := by
  have hrespelled := Value.respelled_of_equal hv hw hequal hplain
  refine Bool.eq_iff_iff.mpr ?_
  rw [validate_isValid, validate_isValid]
  exact sat_respelled hdocuments (Scope.contains_root _) hrespelled

theorem verdict_respelled_three :
    let root : Value := .object [("multipleOf", .ofInt 3)]
    let three : Value := .number (.double ⟨false, 6755399441055744, 1023, by decide⟩)
    (∀ document ∈ (⟨root, .empty⟩ : Scope).documents, document.WellFormed) ∧
      (Value.ofInt 3).WellFormed ∧ three.WellFormed ∧ (Value.ofInt 3).equal three = true ∧
      (∀ i, (Value.ofInt 3).Opposed three i →
        Number.Plain (Scope.IntegerDivisor ⟨root, .empty⟩) i) ∧
      (Registry.empty.validate (.ofInt 3) root).isValid =
        (Registry.empty.validate three root).isValid := by
  intro root three
  have hdocuments : ∀ document ∈ (⟨root, .empty⟩ : Scope).documents, document.WellFormed := by
    intro document hmem
    obtain rfl : document = root := List.mem_singleton.mp hmem
    refine .ofMembers (List.pairwise_singleton ..) fun key child hchild => ?_
    obtain ⟨-, rfl⟩ := Prod.mk.inj (List.mem_singleton.mp hchild)
    exact .ofNumber ⟨by decide, by decide⟩
  have hthree : (Value.ofInt 3).WellFormed := .ofNumber ⟨by decide, by decide⟩
  have hthree' : three.WellFormed := .ofNumber trivial
  have hequal : (Value.ofInt 3).equal three = true := by decide +kernel
  have hdivisor (d : Nat) (hd : Scope.IntegerDivisor ⟨root, .empty⟩ d) : d = 3 := by
    obtain ⟨node, ⟨document, hmem, hwithin⟩, hnumber⟩ := hd
    obtain rfl : document = .object [("multipleOf", .ofInt 3)] := List.mem_singleton.mp hmem
    cases hwithin with
    | refl =>
      have heq : (3 : Int) = d := Number.integer.inj (Option.some.inj hnumber)
      omega
    | member hmem hwithin =>
      obtain ⟨-, rfl⟩ := Prod.mk.inj (List.mem_singleton.mp hmem)
      cases hwithin
  have hplain : ∀ i, (Value.ofInt 3).Opposed three i →
      Number.Plain (Scope.IntegerDivisor ⟨root, .empty⟩) i := by
    rintro i ⟨location, x, ⟨hinteger, -⟩ | ⟨hdouble, -⟩⟩
    · cases hinteger.within
      refine ⟨by decide, fun d hd => ?_⟩
      obtain rfl := hdivisor d hd
      exact .inl (by decide)
    · cases hdouble.within
  exact ⟨hdocuments, hthree, hthree', hequal, hplain,
    verdict_respelled .empty root _ _ hdocuments hthree hthree' hequal hplain⟩

/-- Neither bound can be moved: at `2 ^ 53` a limit tells the integer from the
double that equals it, and so does a divisor just above a third of `2 ^ 31`. -/
theorem verdict_depends_on_spelling :
    let limit : Value := .object [("minimum", .ofInt 9007199254740993)]
    let divisor : Value := .object [("multipleOf", .ofInt 715827883)]
    let bound : Value := .number (.double ⟨false, 4503599627370496, 1075, by decide⟩)
    let dividend : Value := .number (.double ⟨false, 6004799505956866, 1073, by decide⟩)
    ((Value.ofInt 9007199254740992).equal bound = true ∧
      (Registry.empty.validate (.ofInt 9007199254740992) limit).isValid = false ∧
      (Registry.empty.validate bound limit).isValid = true) ∧
    (Value.ofInt 3002399752978433).equal dividend = true ∧
      (Registry.empty.validate (.ofInt 3002399752978433) divisor).isValid = false ∧
      (Registry.empty.validate dividend divisor).isValid = true := by
  decide +kernel

end Validation

end TreeSchema
