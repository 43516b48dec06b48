import TreeSchema.Proofs.Reading

/-!
# Conversion from YAML

Conversion goes through the values and keys of YAML data in document order, the
list `Data.occurrences`, and fails at the first one that the data model has no
counterpart for: `ofYaml_eq_error`. Tags do not matter, and the image of a value
is converted back to it: `ofYaml_untagged`, `ofYaml_toYaml`.
-/

namespace TreeSchema

-- -----------------------------------------------------------------------------
-- Failing computations
-- -----------------------------------------------------------------------------

def failure? {ε α : Type} : Except ε α → Option ε
  | .ok _ => none
  | .error fault => some fault

section Failure

variable {ε α β : Type} {x : Except ε α}

theorem eq_error_iff {fault : ε} : x = .error fault ↔ failure? x = some fault := by
  cases x <;> simp [failure?]

@[simp] theorem failure?_map (f : α → β) : failure? (x.map f) = failure? x := by
  cases x <;> rfl

@[simp] theorem failure?_bind_pure (f : α → β) : failure? (x >>= fun a => pure (f a)) = failure? x := by
  cases x <;> rfl

theorem failure?_bind {f : α → Except ε β} {later : Option ε} (h : ∀ a, failure? (f a) = later) :
    failure? (x >>= f) = (failure? x).or later := by
  cases x with
  | ok a => exact h a
  | error => rfl

end Failure

-- -----------------------------------------------------------------------------
-- Values and keys of YAML data
-- -----------------------------------------------------------------------------

namespace Yaml.Data

theorem induction {P : Data → Prop} (null : P .null) (bool : ∀ b, P (.bool b))
    (number : ∀ n, P (.number n)) (string : ∀ s, P (.string s))
    (sequence : ∀ items, (∀ item ∈ items, P item) → P (.sequence items))
    (mapping : ∀ entries, (∀ key child, (key, child) ∈ entries → P child) → P (.mapping entries))
    (tagged : ∀ tag content, P content → P (.tagged tag content)) : ∀ data, P data
  | .null => null
  | .bool b => bool b
  | .number n => number n
  | .string s => string s
  | .sequence items =>
    sequence items fun item _ => induction null bool number string sequence mapping tagged item
  | .mapping entries =>
    mapping entries fun _ child _ => induction null bool number string sequence mapping tagged child
  | .tagged tag content =>
    tagged tag content (induction null bool number string sequence mapping tagged content)
termination_by data => sizeOf data
decreasing_by
  · decreasing_tactic
  · rename_i hmem
    have hlt := List.sizeOf_lt_of_mem hmem
    simp only [Prod.mk.sizeOf_spec, Data.mapping.sizeOf_spec] at hlt ⊢
    omega
  · decreasing_tactic

/-- `inner` is the data `outer` or a value in it. Keys are not entered. -/
inductive Within : Data → Data → Prop
  | refl {data : Data} : Within data data
  | item {inner item : Data} {items : List Data} :
      item ∈ items → Within inner item → Within inner (.sequence items)
  | child {inner key child : Data} {entries : List (Data × Data)} :
      (key, child) ∈ entries → Within inner child → Within inner (.mapping entries)
  | content {inner content : Data} {tag : String} :
      Within inner content → Within inner (.tagged tag content)

-- -----------------------------------------------------------------------------
-- Values and keys in document order
-- -----------------------------------------------------------------------------

inductive Occurrence where
  | value (data : Data)
  | key (data : Data)

mutual
/-- Data stands before its parts, and the key of an entry before its value. -/
def occurrences : Data → List Occurrence
  | .null => [.value .null]
  | .bool b => [.value (.bool b)]
  | .number n => [.value (.number n)]
  | .string s => [.value (.string s)]
  | .sequence items => .value (.sequence items) :: occurrencesOfItems items
  | .mapping entries => .value (.mapping entries) :: occurrencesOfEntries entries
  | .tagged tag content => .value (.tagged tag content) :: occurrences content

def occurrencesOfItems : List Data → List Occurrence
  | [] => []
  | item :: rest => occurrences item ++ occurrencesOfItems rest

def occurrencesOfEntries : List (Data × Data) → List Occurrence
  | [] => []
  | (key, child) :: rest => .key key :: (occurrences child ++ occurrencesOfEntries rest)
end

def Occurrence.StandsAt (part : Data) : Occurrence → Prop
  | .value data => data = part
  | .key data => ∃ entries child, part = .mapping entries ∧ (data, child) ∈ entries

section Occurrences

variable {inner whole : Data} {items : List Data} {entries : List (Data × Data)}
  {occurrence : Occurrence}

theorem mem_occurrencesOfItems :
    occurrence ∈ occurrencesOfItems items ↔ ∃ item ∈ items, occurrence ∈ item.occurrences := by
  induction items with
  | nil => simp [occurrencesOfItems]
  | cons item rest ih => simp [occurrencesOfItems, ih]

theorem mem_occurrencesOfEntries :
    occurrence ∈ occurrencesOfEntries entries ↔
      ∃ key child, (key, child) ∈ entries ∧
        (occurrence = .key key ∨ occurrence ∈ child.occurrences) := by
  induction entries with
  | nil => simp [occurrencesOfEntries]
  | cons entry rest ih =>
    obtain ⟨key, child⟩ := entry
    simp only [occurrencesOfEntries, List.mem_cons, List.mem_append, ih]
    constructor
    · rintro (rfl | hchild | ⟨name, value, hmem, hoccurs⟩)
      · exact ⟨key, child, .inl rfl, .inl rfl⟩
      · exact ⟨key, child, .inl rfl, .inr hchild⟩
      · exact ⟨name, value, .inr hmem, hoccurs⟩
    · rintro ⟨name, value, heq | hmem, hoccurs⟩
      · obtain ⟨rfl, rfl⟩ := Prod.mk.inj heq
        exact hoccurs.imp_right .inl
      · exact .inr (.inr ⟨name, value, hmem, hoccurs⟩)

theorem Occurrence.StandsAt.mem_occurrences (h : occurrence.StandsAt whole) :
    occurrence ∈ whole.occurrences := by
  cases occurrence with
  | value data =>
    obtain rfl := h
    cases data <;> simp [occurrences]
  | key key =>
    obtain ⟨entries, child, rfl, hmem⟩ := h
    rw [occurrences, List.mem_cons, mem_occurrencesOfEntries]
    exact .inr ⟨key, child, hmem, .inl rfl⟩

theorem Within.occurrences_subset (h : inner.Within whole) :
    inner.occurrences ⊆ whole.occurrences := by
  induction h with
  | refl => exact List.Subset.refl _
  | item hmem _ ih =>
    intro occurrence hoccurs
    rw [occurrences, List.mem_cons, mem_occurrencesOfItems]
    exact .inr ⟨_, hmem, ih hoccurs⟩
  | child hmem _ ih =>
    intro occurrence hoccurs
    rw [occurrences, List.mem_cons, mem_occurrencesOfEntries]
    exact .inr ⟨_, _, hmem, .inr (ih hoccurs)⟩
  | content _ ih => exact fun occurrence hoccurs => List.mem_cons_of_mem _ (ih hoccurs)

theorem mem_occurrences :
    occurrence ∈ whole.occurrences ↔ ∃ part : Data, part.Within whole ∧ occurrence.StandsAt part := by
  refine ⟨fun h => ?_, fun ⟨_, hwithin, hstands⟩ => hwithin.occurrences_subset hstands.mem_occurrences⟩
  induction whole using Data.induction with
  | sequence items ih =>
    rw [occurrences, List.mem_cons, mem_occurrencesOfItems] at h
    obtain rfl | ⟨item, hmem, hoccurs⟩ := h
    · exact ⟨_, .refl, rfl⟩
    · obtain ⟨part, hwithin, hstands⟩ := ih item hmem hoccurs
      exact ⟨part, .item hmem hwithin, hstands⟩
  | mapping entries ih =>
    rw [occurrences, List.mem_cons, mem_occurrencesOfEntries] at h
    obtain rfl | ⟨key, child, hmem, rfl | hoccurs⟩ := h
    · exact ⟨_, .refl, rfl⟩
    · exact ⟨_, .refl, entries, child, rfl, hmem⟩
    · obtain ⟨part, hwithin, hstands⟩ := ih key child hmem hoccurs
      exact ⟨part, .child hmem hwithin, hstands⟩
  | tagged tag content ih =>
    rw [occurrences, List.mem_cons] at h
    obtain rfl | hoccurs := h
    · exact ⟨_, .refl, rfl⟩
    · obtain ⟨part, hwithin, hstands⟩ := ih hoccurs
      exact ⟨part, .content hwithin, hstands⟩
  | _ =>
    obtain rfl := List.mem_singleton.mp h
    exact ⟨_, .refl, rfl⟩

end Occurrences

-- -----------------------------------------------------------------------------
-- Faults
-- -----------------------------------------------------------------------------

def isScalar : Data → Bool
  | .bool _ | .number _ | .string _ => true
  | .null | .sequence _ | .mapping _ | .tagged .. => false

/-- A number has to be finite where it is a value, and a key has to be a
scalar. -/
def Occurrence.fault? : Occurrence → Option ParseFault
  | .value (.number (.finite _)) => none
  | .value (.number n) => some (.numberNotFinite n)
  | .value _ => none
  | .key data => if data.isScalar then none else some (.keyNotScalar data)

def HasNonFinite (data : Data) : Prop :=
  ∃ n : Numeric, (number n).Within data ∧ ∀ m, n ≠ .finite m

def HasCompoundKey (data : Data) : Prop :=
  ∃ entries key child, (mapping entries).Within data ∧ (key, child) ∈ entries ∧
    key.isScalar = false

theorem exists_fault_iff {data : Data} :
    (∃ fault, data.occurrences.findSome? Occurrence.fault? = some fault) ↔
      data.HasNonFinite ∨ data.HasCompoundKey := by
  rw [← Option.isSome_iff_exists, List.findSome?_isSome_iff]
  constructor
  · rintro ⟨occurrence, hmem, hfault⟩
    obtain ⟨part, hwithin, hstands⟩ := mem_occurrences.mp hmem
    cases occurrence with
    | value other =>
      obtain rfl := hstands
      cases other with
      | number n =>
        refine .inl ⟨n, hwithin, ?_⟩
        rintro m rfl
        cases hfault
      | _ => cases hfault
    | key key =>
      obtain ⟨entries, child, rfl, hentry⟩ := hstands
      refine .inr ⟨entries, key, child, hwithin, hentry, ?_⟩
      by_contra hscalar
      simp [Occurrence.fault?, hscalar] at hfault
  · rintro (⟨n, hwithin, hn⟩ | ⟨entries, key, child, hwithin, hentry, hscalar⟩)
    · refine ⟨.value (.number n), mem_occurrences.mpr ⟨_, hwithin, rfl⟩, ?_⟩
      cases n with
      | finite m => exact absurd rfl (hn m)
      | _ => rfl
    · refine ⟨.key key, mem_occurrences.mpr ⟨_, hwithin, entries, child, rfl, hentry⟩, ?_⟩
      simp [Occurrence.fault?, hscalar]

-- -----------------------------------------------------------------------------
-- Tags
-- -----------------------------------------------------------------------------

mutual
def untagged : Data → Data
  | .null => .null
  | .bool b => .bool b
  | .number n => .number n
  | .string s => .string s
  | .sequence items => .sequence (untaggedItems items)
  | .mapping entries => .mapping (untaggedEntries entries)
  | .tagged _ content => untagged content

def untaggedItems : List Data → List Data
  | [] => []
  | item :: rest => untagged item :: untaggedItems rest

def untaggedEntries : List (Data × Data) → List (Data × Data)
  | [] => []
  | (key, child) :: rest => (key, untagged child) :: untaggedEntries rest
end

end Yaml.Data

-- -----------------------------------------------------------------------------
-- Conversion
-- -----------------------------------------------------------------------------

namespace Value

open Yaml (Data)
open Yaml.Data (Occurrence)

section Faults

variable {data : Data} {items : List Data} {entries : List (Data × Data)}

theorem failure?_keyOfYaml (key : Data) :
    failure? (keyOfYaml key) = (Occurrence.key key).fault? := by
  cases key <;> rfl

theorem failure?_itemsOfYaml
    (h : ∀ item ∈ items, failure? (ofYaml item) = item.occurrences.findSome? Occurrence.fault?) :
    failure? (itemsOfYaml items) =
      (Data.occurrencesOfItems items).findSome? Occurrence.fault? := by
  induction items with
  | nil => rfl
  | cons item rest ih =>
    obtain ⟨hitem, hrest⟩ := List.forall_mem_cons.mp h
    rw [itemsOfYaml, Data.occurrencesOfItems, List.findSome?_append, ← hitem, ← ih hrest]
    exact failure?_bind fun _ => failure?_bind_pure _

theorem failure?_pairsOfYaml
    (h : ∀ key child, (key, child) ∈ entries →
      failure? (ofYaml child) = child.occurrences.findSome? Occurrence.fault?) :
    failure? (pairsOfYaml entries) =
      (Data.occurrencesOfEntries entries).findSome? Occurrence.fault? := by
  induction entries with
  | nil => rfl
  | cons entry rest ih =>
    obtain ⟨key, child⟩ := entry
    have hchild := h key child List.mem_cons_self
    have hrest := ih fun key child hmem => h key child (List.mem_cons_of_mem _ hmem)
    rw [pairsOfYaml, Data.occurrencesOfEntries, ← List.singleton_append, List.findSome?_append,
      List.findSome?_append, ← hchild, ← hrest, List.findSome?_singleton, ← failure?_keyOfYaml]
    exact failure?_bind fun _ => failure?_bind fun _ => failure?_bind_pure _

theorem failure?_ofYaml (h : data.Held) :
    failure? (ofYaml data) = data.occurrences.findSome? Occurrence.fault? := by
  induction h with
  | number hrange =>
    rw [ofYaml, numberOfYaml_finite hrange]
    rfl
  | sequence _ ih =>
    rw [ofYaml, failure?_map]
    exact failure?_itemsOfYaml ih
  | mapping _ ih =>
    rw [ofYaml, failure?_map]
    exact failure?_pairsOfYaml ih
  | tagged _ ih => exact ih
  | _ => rfl

end Faults

-- -----------------------------------------------------------------------------
-- Data that differs in tags
-- -----------------------------------------------------------------------------

theorem itemsOfYaml_untagged {items : List Data}
    (h : ∀ item ∈ items, ofYaml item.untagged = ofYaml item) :
    itemsOfYaml (Data.untaggedItems items) = itemsOfYaml items := by
  induction items with
  | nil => rfl
  | cons item rest ih =>
    obtain ⟨hitem, hrest⟩ := List.forall_mem_cons.mp h
    rw [Data.untaggedItems, itemsOfYaml, itemsOfYaml, hitem, ih hrest]

theorem pairsOfYaml_untagged {entries : List (Data × Data)}
    (h : ∀ key child, (key, child) ∈ entries → ofYaml child.untagged = ofYaml child) :
    pairsOfYaml (Data.untaggedEntries entries) = pairsOfYaml entries := by
  induction entries with
  | nil => rfl
  | cons entry rest ih =>
    obtain ⟨key, child⟩ := entry
    have hchild := h key child List.mem_cons_self
    have hrest := ih fun key child hmem => h key child (List.mem_cons_of_mem _ hmem)
    rw [Data.untaggedEntries, pairsOfYaml, pairsOfYaml, hchild, hrest]

@[simp] theorem ofYaml_untagged (data : Data) : ofYaml data.untagged = ofYaml data := by
  induction data using Data.induction with
  | sequence items ih => rw [Data.untagged, ofYaml, ofYaml, itemsOfYaml_untagged ih]
  | mapping entries ih => rw [Data.untagged, ofYaml, ofYaml, pairsOfYaml_untagged ih]
  | tagged tag content ih => rw [Data.untagged, ofYaml, ih]
  | _ => rfl

-- -----------------------------------------------------------------------------
-- Images of values
-- -----------------------------------------------------------------------------

mutual
def toYaml : Value → Data
  | .null => .null
  | .bool b => .bool b
  | .number n => .number (.finite n)
  | .string s => .string s
  | .array items => .sequence (itemsToYaml items)
  | .object members => .mapping (entriesToYaml members)

def itemsToYaml : List Value → List Data
  | [] => []
  | item :: rest => toYaml item :: itemsToYaml rest

def entriesToYaml : List (String × Value) → List (Data × Data)
  | [] => []
  | (key, child) :: rest => (.string key, toYaml child) :: entriesToYaml rest
end

theorem itemsOfYaml_toYaml {items : List Value} (h : ∀ item ∈ items, ofYaml item.toYaml = .ok item) :
    itemsOfYaml (itemsToYaml items) = .ok items := by
  induction items with
  | nil => rfl
  | cons item rest ih =>
    obtain ⟨hitem, hrest⟩ := List.forall_mem_cons.mp h
    rw [itemsToYaml, itemsOfYaml, hitem, ih hrest]
    rfl

theorem pairsOfYaml_toYaml {members : Members}
    (h : ∀ key child, (key, child) ∈ members → ofYaml child.toYaml = .ok child) :
    pairsOfYaml (entriesToYaml members) = .ok members := by
  induction members with
  | nil => rfl
  | cons entry rest ih =>
    obtain ⟨key, child⟩ := entry
    have hchild := h key child List.mem_cons_self
    have hrest := ih fun key child hmem => h key child (List.mem_cons_of_mem _ hmem)
    rw [entriesToYaml, pairsOfYaml, hchild, hrest]
    rfl

theorem ofYaml_toYaml {value : Value} (h : value.WellFormed) : ofYaml value.toYaml = .ok value := by
  induction h using WellFormed.induction with
  | number n h =>
    rw [toYaml, ofYaml, numberOfYaml_finite (h.numbers n .refl)]
    rfl
  | array items _ ih =>
    rw [toYaml, ofYaml, itemsOfYaml_toYaml ih]
    rfl
  | object members h ih =>
    rw [toYaml, ofYaml, pairsOfYaml_toYaml ih]
    have hsorted := (h.objects members .refl).ofList_eq
    exact congrArg (fun members => Except.ok (object members)) hsorted
  | _ => rfl

/-- Conversion fails on data with a number that is not finite outside of keys or
with a key that is no scalar, and on no other; it reports the first of these in
document order. A number is always a key. The image of a value, with tags around
any of its parts, is converted to that value. -/
theorem ofYaml_exact :
    (∀ data : Data, data.Held →
      ((∃ fault, ofYaml data = .error fault) ↔ data.HasNonFinite ∨ data.HasCompoundKey) ∧
      ∀ fault, ofYaml data = .error fault ↔
        data.occurrences.findSome? Occurrence.fault? = some fault) ∧
    (∀ n, keyOfYaml (.number n) = .ok n.text) ∧
    ∀ value : Value, value.WellFormed →
      ∀ data : Data, data.untagged = value.toYaml → ofYaml data = .ok value := by
  refine ⟨fun data hdata => ?_, fun _ => rfl, fun value hvalue data himage => ?_⟩
  · have hfault (fault : ParseFault) : ofYaml data = .error fault ↔
        data.occurrences.findSome? Occurrence.fault? = some fault := by
      rw [eq_error_iff, failure?_ofYaml hdata]
    refine ⟨?_, hfault⟩
    simp only [hfault]
    exact Data.exists_fault_iff
  · rw [← ofYaml_untagged, himage, ofYaml_toYaml hvalue]

theorem ofYaml_exact_nested :
    let infinite : Data := .number (.infinite true)
    let data : Data := .mapping
      [(.number .undefined, .sequence [.null, .tagged "t" infinite]), (.null, .number .undefined)]
    let greatest : Number := .integer 18446744073709551615
    let value : Value := .object [("a", .array [.number greatest]), ("b", .bool true)]
    let image : Data := .tagged "t" (.mapping
      [(.string "a", .sequence [.tagged "u" (.number (.finite greatest))]), (.string "b", .bool true)])
    (data.Held ∧ ofYaml data = .error (.numberNotFinite (.infinite true))) ∧
      value.WellFormed ∧ image.untagged = value.toYaml ∧ ofYaml image = .ok value := by
  intro infinite data greatest value image
  have hdata : data.Held := by
    refine .mapping fun key child hmem => ?_
    simp only [List.mem_cons, Prod.mk.injEq, List.not_mem_nil, or_false] at hmem
    obtain ⟨-, rfl⟩ | ⟨-, rfl⟩ := hmem
    · refine .sequence (List.forall_mem_cons.mpr ⟨.null, List.forall_mem_singleton.mpr ?_⟩)
      exact .tagged .infinite
    · exact .undefined
  have hvalue : value.WellFormed := by
    refine .ofMembers (List.pairwise_pair.mpr (by decide)) fun key child hmem => ?_
    simp only [List.mem_cons, Prod.mk.injEq, List.not_mem_nil, or_false] at hmem
    obtain ⟨-, rfl⟩ | ⟨-, rfl⟩ := hmem
    · exact .ofItems (List.forall_mem_singleton.mpr (.ofNumber ⟨by decide, by decide⟩))
    · exact .ofLeaf rfl rfl rfl
  have himage : image.untagged = value.toYaml := rfl
  exact ⟨⟨hdata, ((ofYaml_exact.1 data hdata).2 _).mpr rfl⟩, hvalue, himage,
    ofYaml_exact.2.2 value hvalue image himage⟩

end Value

end TreeSchema
