import Mathlib.Data.List.Forall2
import Mathlib.Data.List.Induction
import Mathlib.Data.List.Nodup
import Mathlib.Data.List.Perm.Subperm
import TreeSchema.Proofs.Subtree

/-!
# Well-formed values

A value is well formed when its integers are in the range that the data model
holds and the members of its objects stand in key order, each key once.
-/

namespace TreeSchema

def Number.InRange : Number → Prop
  | .integer i => leastInteger ≤ i ∧ i ≤ greatestInteger
  | .double _ => True

-- -----------------------------------------------------------------------------
-- Sorted entries

namespace Assoc

variable {β γ : Type} {entries : List (String × β)} {key : String} {value : β}

theorem Sorted.keys_pairwise (h : Sorted entries) : (keys entries).Pairwise (· < ·) :=
  List.pairwise_map.mpr h

theorem Sorted.keys_nodup (h : Sorted entries) : (keys entries).Nodup := by
  refine h.keys_pairwise.imp ?_
  rintro key _ hlt rfl
  exact String.lt_irrefl key hlt

theorem Sorted.mem_iff_lookup (h : Sorted entries) :
    (key, value) ∈ entries ↔ entries.lookup key = some value := by
  refine ⟨fun hmem => ?_, mem_of_lookup⟩
  induction entries with
  | nil => simp at hmem
  | cons entry rest ih =>
    obtain ⟨name, kept⟩ := entry
    obtain ⟨hhead, htail⟩ := List.pairwise_cons.mp h
    rcases List.mem_cons.mp hmem with heq | hrest
    · obtain ⟨rfl, rfl⟩ := Prod.mk.inj heq
      simp
    · have hne : key ≠ name := by
        rintro rfl
        exact String.lt_irrefl key (hhead (key, value) hrest)
      simpa [List.lookup_cons, beq_eq_false_iff_ne.mpr hne] using ih htail hrest

theorem Sorted.value_unique {value' : β} (h : Sorted entries) (hmem : (key, value) ∈ entries)
    (hmem' : (key, value') ∈ entries) : value = value' :=
  Option.some.inj ((h.mem_iff_lookup.mp hmem).symm.trans (h.mem_iff_lookup.mp hmem'))

theorem Sorted.nodup (h : Sorted entries) : entries.Nodup := by
  refine h.imp ?_
  rintro entry _ hlt rfl
  exact String.lt_irrefl entry.1 hlt

theorem Sorted.keys_eq {others : List (String × γ)} (h : Sorted entries) (h' : Sorted others)
    (hlength : entries.length = others.length) (hsubset : keys entries ⊆ keys others) :
    List.Forall₂ (fun entry other => entry.1 = other.1) entries others := by
  have hperm : (keys entries).Perm (keys others) :=
    (h.keys_nodup.subperm hsubset).perm_of_length_le (by simp [keys, hlength])
  have hkeys : keys entries = keys others :=
    hperm.eq_of_pairwise (fun a b _ _ hab hba => absurd hba (String.lt_asymm hab))
      h.keys_pairwise h'.keys_pairwise
  rw [keys, keys, ← List.forall₂_eq_eq_eq, List.forall₂_map_left_iff,
    List.forall₂_map_right_iff] at hkeys
  exact hkeys

theorem ofList_append_singleton (pairs : List (String × β)) (key : String) (value : β) :
    ofList (pairs ++ [(key, value)]) = insert key value (ofList pairs) := by
  simp [ofList]

theorem sorted_ofList (pairs : List (String × β)) : Sorted (ofList pairs) := by
  induction pairs using List.reverseRecOn with
  | nil => exact .nil
  | append_singleton pairs pair ih =>
    rw [ofList_append_singleton]
    exact sorted_insert _ _ ih

theorem insert_of_forall_lt (h : ∀ entry ∈ entries, entry.1 < key) :
    insert key value entries = entries ++ [(key, value)] := by
  induction entries with
  | nil => rfl
  | cons entry rest ih =>
    obtain ⟨name, kept⟩ := entry
    obtain ⟨hlt, hrest⟩ := List.forall_mem_cons.mp h
    have hne : key ≠ name := by
      rintro rfl
      exact String.lt_irrefl key hlt
    rw [insert, if_neg (String.lt_asymm hlt), if_neg hne, ih hrest, List.cons_append]

theorem Sorted.ofList_eq (h : Sorted entries) : ofList entries = entries := by
  induction entries using List.reverseRecOn with
  | nil => rfl
  | append_singleton entries entry ih =>
    obtain ⟨hinit, -, hlast⟩ := List.pairwise_append.mp h
    rw [ofList_append_singleton, ih hinit]
    exact insert_of_forall_lt fun other hmem => hlast other hmem entry (List.mem_singleton_self entry)

theorem mem_of_mem_ofList {pairs : List (String × β)} {entry : String × β}
    (h : entry ∈ ofList pairs) : entry ∈ pairs := by
  induction pairs using List.reverseRecOn with
  | nil => exact h
  | append_singleton pairs pair ih =>
    rw [ofList_append_singleton] at h
    rw [List.mem_append, List.mem_singleton]
    exact (mem_insert h).symm.imp ih id

end Assoc

-- -----------------------------------------------------------------------------
-- Values

namespace Value

structure WellFormed (value : Value) : Prop where
  numbers : ∀ n, (number n).Within value → n.InRange
  objects : ∀ members, (object members).Within value → Assoc.Sorted members

variable {v w : Value}

theorem WellFormed.within (hw : w.WellFormed) (h : v.Within w) : v.WellFormed where
  numbers n hn := hw.numbers n (hn.trans h)
  objects members hmembers := hw.objects members (hmembers.trans h)

theorem WellFormed.item {items : List Value} {item : Value} (h : (array items).WellFormed)
    (hmem : item ∈ items) : item.WellFormed :=
  h.within (.item hmem .refl)

theorem WellFormed.member {members : Members} {key : String} {child : Value}
    (h : (object members).WellFormed) (hmem : (key, child) ∈ members) : child.WellFormed :=
  h.within (.member hmem .refl)

theorem WellFormed.ofNumber {n : Number} (h : n.InRange) : (number n).WellFormed where
  numbers m hm := by
    cases hm
    exact h
  objects members hmembers := by cases hmembers

theorem WellFormed.ofLeaf (hnumber : v.asNumber? = none) (hitems : v.asItems? = none)
    (hmembers : v.asMembers? = none) : v.WellFormed where
  numbers n hn := by cases hn <;> simp_all [asNumber?, asItems?, asMembers?]
  objects members hmembers := by cases hmembers <;> simp_all [asItems?, asMembers?]

theorem WellFormed.ofItems {items : List Value} (h : ∀ item ∈ items, item.WellFormed) :
    (array items).WellFormed where
  numbers n hn := by
    cases hn with
    | item hmem hwithin => exact (h _ hmem).numbers n hwithin
  objects members hmembers := by
    cases hmembers with
    | item hmem hwithin => exact (h _ hmem).objects members hwithin

theorem WellFormed.ofMembers {members : Members} (hsorted : Assoc.Sorted members)
    (h : ∀ key child, (key, child) ∈ members → child.WellFormed) :
    (object members).WellFormed where
  numbers n hn := by
    cases hn with
    | member hmem hwithin => exact (h _ _ hmem).numbers n hwithin
  objects inner hinner := by
    cases hinner with
    | refl => exact hsorted
    | member hmem hwithin => exact (h _ _ hmem).objects inner hwithin

theorem WellFormed.ofPairs {pairs : List (String × Value)}
    (h : ∀ key child, (key, child) ∈ pairs → child.WellFormed) :
    (Value.ofPairs pairs).WellFormed :=
  .ofMembers (Assoc.sorted_ofList pairs) fun key child hmem => h key child (Assoc.mem_of_mem_ofList hmem)

theorem WellFormed.induction {P : (v : Value) → v.WellFormed → Prop} (null : ∀ h, P .null h)
    (bool : ∀ b h, P (.bool b) h) (number : ∀ n h, P (.number n) h) (string : ∀ s h, P (.string s) h)
    (array : ∀ items h, (∀ item (hmem : item ∈ items), P item (h.item hmem)) → P (.array items) h)
    (object : ∀ members h, (∀ key child (hmem : (key, child) ∈ members), P child (h.member hmem)) →
      P (.object members) h) {v : Value} (h : v.WellFormed) : P v h := by
  induction hheight : v.height using Nat.strongRecOn generalizing v with
  | _ _ ih =>
    cases v with
    | null => exact null h
    | bool b => exact bool b h
    | number n => exact number n h
    | string s => exact string s h
    | array items =>
      exact array items h fun item hmem => ih _ (hheight ▸ height_item_lt hmem) (h.item hmem) rfl
    | object members =>
      exact object members h fun key child hmem =>
        ih _ (hheight ▸ height_member_lt hmem) (h.member hmem) rfl

end Value

end TreeSchema
