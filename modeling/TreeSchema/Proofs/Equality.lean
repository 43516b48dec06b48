import TreeSchema.Proofs.Spelling
import TreeSchema.Proofs.Verdict

/-!
# Equality of values

Equal well-formed values have one shape and differ in the spelling of numbers at
most: `equal_induction` is the induction over such a pair. Equality is reflexive
and symmetric, and it is identity where no number is a double: `equal_laws`.
-/

namespace TreeSchema

namespace Number

theorem equal_self (n : Number) : n.equal n = true := by
  cases n with
  | integer i => simp [equal, compare]
  | double x => simp [equal, compare_double_left, toBinary64, Binary64.compare]

theorem equal_comm (n m : Number) : n.equal m = m.equal n := by
  rw [equal, equal, ← compare_swap n m]
  cases m.compare n with
  | none => rfl
  | some order => cases order <;> rfl

end Number

namespace Value

-- -----------------------------------------------------------------------------
-- Items and members

theorem equalItems_iff {xs ys : List Value} :
    equalItems xs ys = true ↔ List.Forall₂ (fun x y => x.equal y = true) xs ys := by
  induction xs generalizing ys with
  | nil => cases ys <;> simp [equalItems]
  | cons x xs ih => cases ys <;> simp [equalItems, ih]

theorem equalMembers_iff {xs ys : Members} :
    equalMembers xs ys = true ↔
      ∀ entry ∈ xs, ∃ y, ys.lookup entry.1 = some y ∧ entry.2.equal y = true := by
  induction xs with
  | nil => simp [equalMembers]
  | cons entry rest ih =>
    obtain ⟨name, value⟩ := entry
    rw [equalMembers, Bool.and_eq_true, ih, List.forall_mem_cons]
    cases ys.lookup name <;> simp

theorem equal_object {xs ys : Members} (hx : Assoc.Sorted xs) (hy : Assoc.Sorted ys) :
    (object xs).equal (object ys) = true ↔
      List.Forall₂ (RelatedEntry fun _ x y => x.equal y = true) xs ys := by
  rw [Value.equal, Bool.and_eq_true, beq_iff_eq, equalMembers_iff]
  constructor
  · rintro ⟨hlength, hmembers⟩
    have hkeys : List.Forall₂ (fun x y => x.1 = y.1) xs ys := by
      refine hx.keys_eq hy hlength fun key hkey => ?_
      obtain ⟨entry, hmem, rfl⟩ := List.mem_map.mp hkey
      obtain ⟨y, hlookup, -⟩ := hmembers entry hmem
      exact List.mem_map.mpr ⟨_, mem_of_lookup hlookup, rfl⟩
    refine forall₂_imp hkeys ?_
    rintro ⟨key, x⟩ hmem ⟨name, y⟩ hmem' rfl
    obtain ⟨y', hlookup, hequal⟩ := hmembers _ hmem
    obtain rfl : y = y' := Option.some.inj ((hy.mem_iff_lookup.mp hmem').symm.trans hlookup)
    exact ⟨rfl, hequal⟩
  · intro h
    refine ⟨h.length_eq, fun entry hmem => ?_⟩
    have hrelated := lookup_related h entry.1
    rw [hx.mem_iff_lookup.mp hmem] at hrelated
    cases hlookup : ys.lookup entry.1 with
    | none => simp [hlookup] at hrelated
    | some y => exact ⟨y, rfl, by simpa [hlookup] using hrelated⟩

-- -----------------------------------------------------------------------------
-- Pairs of equal values

/-- What holds of equal numbers, and carries over from the parts to the whole,
holds of equal values. -/
theorem equal_induction {P : Value → Value → Prop} (null : P .null .null)
    (bool : ∀ b, P (.bool b) (.bool b)) (string : ∀ s, P (.string s) (.string s))
    (number : ∀ n m : Number, n.InRange → m.InRange → n.equal m = true → P (.number n) (.number m))
    (array : ∀ xs ys, List.Forall₂ P xs ys → P (.array xs) (.array ys))
    (object : ∀ xs ys, Assoc.Sorted xs → Assoc.Sorted ys →
      List.Forall₂ (RelatedEntry fun _ => P) xs ys → P (.object xs) (.object ys))
    {v w : Value} (hv : v.WellFormed) (hw : w.WellFormed) (h : v.equal w = true) : P v w := by
  induction hheight : v.height using Nat.strong_induction_on generalizing v w with
  | _ _ ih =>
    cases v with
    | null =>
      cases w with
      | null => exact null
      | _ => cases h
    | bool b =>
      cases w with
      | bool b' =>
        obtain rfl : b = b' := by simpa [Value.equal] using h
        exact bool b
      | _ => cases h
    | number n =>
      cases w with
      | number m => exact number n m (hv.numbers n .refl) (hw.numbers m .refl) h
      | _ => cases h
    | string s =>
      cases w with
      | string s' =>
        obtain rfl : s = s' := by simpa [Value.equal] using h
        exact string s
      | _ => cases h
    | array xs =>
      cases w with
      | array ys =>
        refine array xs ys (forall₂_imp (equalItems_iff.mp h) fun x hx y hy hequal => ?_)
        exact ih _ (hheight ▸ height_item_lt hx) (hv.item hx) (hw.item hy) hequal rfl
      | _ => cases h
    | object xs =>
      cases w with
      | object ys =>
        have hsorted := hv.objects xs .refl
        have hsorted' := hw.objects ys .refl
        refine object xs ys hsorted hsorted' (forall₂_imp ((equal_object hsorted hsorted').mp h) ?_)
        rintro ⟨key, x⟩ hx ⟨name, y⟩ hy ⟨rfl, hequal⟩
        exact ⟨rfl, ih _ (hheight ▸ height_member_lt hx) (hv.member hx) (hw.member hy) hequal rfl⟩
      | _ => cases h

variable {v w : Value}

theorem equal_self (hv : v.WellFormed) : v.equal v = true := by
  induction hv using WellFormed.induction with
  | null => rfl
  | bool b => simp [Value.equal]
  | number n => exact Number.equal_self n
  | string s => simp [Value.equal]
  | array items _ ih => exact equalItems_iff.mpr (List.forall₂_same.mpr ih)
  | object members h ih =>
    have hsorted := h.objects members .refl
    refine (equal_object hsorted hsorted).mpr (List.forall₂_same.mpr fun entry hmem => ⟨rfl, ?_⟩)
    exact ih _ _ hmem

theorem equal_symm (hv : v.WellFormed) (hw : w.WellFormed) (h : v.equal w = true) :
    w.equal v = true := by
  refine equal_induction (P := fun v w => w.equal v = true) ?null ?bool ?string ?number ?array
    ?object hv hw h
  case null => rfl
  case bool => simp [Value.equal]
  case string => simp [Value.equal]
  case number =>
    intro n m _ _ h
    rwa [Value.equal, Number.equal_comm]
  case array => exact fun xs ys h => equalItems_iff.mpr h.flip
  case object =>
    intro xs ys hx hy h
    refine (equal_object hy hx).mpr (List.Forall₂.flip (h.imp ?_))
    rintro _ _ ⟨hkey, hequal⟩
    exact ⟨hkey.symm, hequal⟩

theorem equal_comm (hv : v.WellFormed) (hw : w.WellFormed) : v.equal w = w.equal v :=
  Bool.eq_iff_iff.mpr ⟨equal_symm hv hw, equal_symm hw hv⟩

-- -----------------------------------------------------------------------------
-- Values without doubles

def DoubleFree (v : Value) : Prop := ∀ x, ¬(number (.double x)).Within v

theorem DoubleFree.item {items : List Value} {item : Value} (h : (array items).DoubleFree)
    (hmem : item ∈ items) : item.DoubleFree :=
  fun x hx => h x (.item hmem hx)

theorem DoubleFree.member {members : Members} {key : String} {child : Value}
    (h : (object members).DoubleFree) (hmem : (key, child) ∈ members) : child.DoubleFree :=
  fun x hx => h x (.member hmem hx)

theorem eq_of_equal (hv : v.WellFormed) (hw : w.WellFormed) (hfree : v.DoubleFree)
    (hfree' : w.DoubleFree) (h : v.equal w = true) : v = w := by
  refine equal_induction (P := fun v w => v.DoubleFree → w.DoubleFree → v = w) ?null ?bool ?string
    ?number ?array ?object hv hw h hfree hfree'
  case null => exact fun _ _ => rfl
  case bool => exact fun _ _ _ => rfl
  case string => exact fun _ _ _ => rfl
  case number =>
    intro n m _ _ h hfree hfree'
    cases n with
    | double x => exact absurd .refl (hfree x)
    | integer i =>
      cases m with
      | double x => exact absurd .refl (hfree' x)
      | integer j =>
        obtain rfl : i = j := by simpa [Number.equal, Number.compare] using h
        rfl
  case array =>
    intro xs ys h hfree hfree'
    have heq : List.Forall₂ (· = ·) xs ys :=
      forall₂_imp h fun x hx y hy ih => ih (hfree.item hx) (hfree'.item hy)
    rw [List.forall₂_eq_eq_eq] at heq
    rw [heq]
  case object =>
    intro xs ys _ _ h hfree hfree'
    have heq : List.Forall₂ (· = ·) xs ys := by
      refine forall₂_imp h ?_
      rintro ⟨key, x⟩ hx ⟨name, y⟩ hy ⟨rfl, ih⟩
      exact Prod.ext rfl (ih (hfree.member hx) (hfree'.member hy))
    rw [List.forall₂_eq_eq_eq] at heq
    rw [heq]

end Value

-- -----------------------------------------------------------------------------
-- Constants

namespace Validation

variable {sat : Value → Value → Prop} {value : Value} {node : Members}

theorem holds_of_constants
    (hnone : ∀ keyword, keyword ∉ ["const", "enum"] → node.lookup keyword = none)
    (hconst : ∀ expected, node.lookup "const" = some expected → value.equal expected = true)
    (henum : ∀ options, node.lookup "enum" = some (.array options) →
      ∃ option ∈ options, value.equal option = true) : Holds sat value node where
  condition := by simp (disch := decide) [hnone]
  oneOf := by simp (disch := decide) [hnone]
  const := hconst
  enum := henum
  type := by simp (disch := decide) [hnone]
  string s _ := by constructor <;> simp (disch := decide) [WithinLimits, hnone]
  number n _ := by constructor <;> simp (disch := decide) [hnone]
  object members _ := by constructor <;> simp (disch := decide) [WithinLimits, hnone]
  array items _ := by constructor <;> simp (disch := decide) [WithinLimits, hnone]
  allOf := by simp (disch := decide) [hnone]
  anyOf := by simp (disch := decide) [hnone]
  not := by simp (disch := decide) [hnone]

theorem isValid_of_constants (registry : Registry)
    (hkeys : ∀ entry ∈ node, entry.1 ∈ ["const", "enum"])
    (hconst : ∀ expected, node.lookup "const" = some expected → value.equal expected = true)
    (henum : ∀ options, node.lookup "enum" = some (.array options) →
      ∃ option ∈ options, value.equal option = true) :
    (registry.validate value (.object node)).isValid = true := by
  have hnone (keyword : String) (hkeyword : keyword ∉ ["const", "enum"]) :
      node.lookup keyword = none := by
    refine List.lookup_eq_none_iff.mpr fun entry hmem => bne_iff_ne.mpr ?_
    rintro rfl
    exact hkeyword (hkeys entry hmem)
  have href : node.lookup "$ref" = none := hnone "$ref" (by decide)
  rw [validate_isValid, sat_iff]
  simp only [Meaning, href]
  exact holds_of_constants hnone hconst henum

/-- Equality is reflexive and symmetric on well-formed values, whatever numbers
they hold, and identity on those without doubles. So a value satisfies the
constant and every enumeration built from itself. -/
theorem equal_laws {v w : Value} (hv : v.WellFormed) (hw : w.WellFormed) :
    v.equal v = true ∧ v.equal w = w.equal v ∧
      (v.DoubleFree → w.DoubleFree → (v.equal w = true ↔ v = w)) ∧
      ∀ registry : Registry,
        (registry.validate v (.object [("const", v)])).isValid = true ∧
        ∀ options, v ∈ options →
          (registry.validate v (.object [("enum", .array options)])).isValid = true := by
  have hself := Value.equal_self hv
  refine ⟨hself, Value.equal_comm hv hw, fun hfree hfree' => ⟨?_, ?_⟩, fun registry => ⟨?_, ?_⟩⟩
  · exact Value.eq_of_equal hv hw hfree hfree'
  · rintro rfl
    exact hself
  · refine isValid_of_constants registry ?_ ?_ ?_
    · simp
    · simp [hself]
    · simp [List.lookup_cons]
  · intro options hmem
    refine isValid_of_constants registry ?_ ?_ ?_
    · simp
    · simp [List.lookup_cons]
    · simpa [Members.items?, Value.asItems?] using ⟨v, hmem, hself⟩

/-- Two neighbouring integers equal the same double, but not each other. -/
theorem equal_laws_neighbours :
    let wrap (n : Number) : Value := .object [("a", .array [.number n])]
    let v := wrap (.integer 18446744073709551615)
    let w := wrap (.integer 18446744073709551614)
    let double := wrap (.double ⟨false, 4503599627370496, 1086, by decide⟩)
    v.WellFormed ∧ w.WellFormed ∧ v.DoubleFree ∧ w.DoubleFree ∧ double.WellFormed ∧
      v.equal double = true ∧ double.equal v = true ∧ w.equal double = true ∧
      v.equal v = true ∧ v.equal w = false ∧
      (Registry.empty.validate v (.object [("const", v)])).isValid = true ∧
      (Registry.empty.validate v (.object [("enum", .array [w, v])])).isValid = true := by
  intro wrap v w double
  have hwrap {n : Number} (hn : n.InRange) : (wrap n).WellFormed := by
    refine .ofMembers (List.pairwise_singleton ..) fun key child hmem => ?_
    obtain ⟨-, rfl⟩ := Prod.mk.inj (List.mem_singleton.mp hmem)
    exact .ofItems (List.forall_mem_singleton.mpr (.ofNumber hn))
  have hfree (i : Int) : (wrap (.integer i)).DoubleFree := by
    intro x hx
    cases hx with
    | member hmem hx =>
      obtain ⟨-, rfl⟩ := Prod.mk.inj (List.mem_singleton.mp hmem)
      cases hx with
      | item hmem hx =>
        obtain rfl := List.mem_singleton.mp hmem
        cases hx
  have hv : v.WellFormed := hwrap ⟨by decide, by decide⟩
  have hw : w.WellFormed := hwrap ⟨by decide, by decide⟩
  have hdouble : double.WellFormed := hwrap trivial
  have hequal : v.equal double = true := by decide +kernel
  obtain ⟨hself, -, hiff, hconstants⟩ := equal_laws hv hw
  have hne : v ≠ w := by simp [v, w, wrap]
  obtain ⟨hconst, henum⟩ := hconstants .empty
  refine ⟨hv, hw, hfree _, hfree _, hdouble, hequal, ?_, by decide +kernel, hself, ?_, hconst, ?_⟩
  · exact (equal_laws hv hdouble).2.1 ▸ hequal
  · exact Bool.eq_false_iff.mpr fun heq => hne ((hiff (hfree _) (hfree _)).mp heq)
  · exact henum [w, v] (by simp)

end Validation

end TreeSchema
