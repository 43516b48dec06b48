import TreeSchema.Proofs.Conversion
import TreeSchema.Proofs.Numerals
import TreeSchema.Proofs.Placement

/-!
# Keys of mappings

Conversion turns the keys of a mapping into strings. Different numbers and truth
values have different texts, so two keys of a mapping become one only where a
string is spelled like a number or a truth value. Then the later entry replaces
the earlier one; otherwise every entry is kept: `entries_kept`.
-/

namespace TreeSchema

-- -----------------------------------------------------------------------------
-- Entries by key
-- -----------------------------------------------------------------------------

namespace Assoc

variable {pairs : List (String × Value)} {name : String}

theorem lookup_ofList (pairs : List (String × Value)) (name : String) :
    (ofList pairs).lookup name = lastDefined pairs name := by
  induction pairs using List.reverseRecOn with
  | nil => rfl
  | append_singleton pairs pair ih =>
    obtain ⟨key, value⟩ := pair
    rw [ofList_append_singleton, lookup_insert, lastDefined_append, lastDefined_cons, ih]
    split <;> rfl

theorem mem_keys_ofList : name ∈ keys (ofList pairs) ↔ name ∈ keys pairs := by
  have hlookup : name ∈ keys (ofList pairs) ↔ ((ofList pairs).lookup name).isSome = true := by
    simp [keys, List.lookup_isSome_iff]
  rw [hlookup, lookup_ofList, lastDefined_isSome]
  simp [keys]

theorem length_ofList_eq_iff : (ofList pairs).length = pairs.length ↔ (keys pairs).Nodup := by
  have hsorted := (sorted_ofList pairs).keys_nodup
  have hsubset : keys (ofList pairs) ⊆ keys pairs := fun _ => mem_keys_ofList.mp
  have hlength : (keys (ofList pairs)).length = (ofList pairs).length := List.length_map _
  have hlength' : (keys pairs).length = pairs.length := List.length_map _
  constructor
  · intro heq
    have hperm := (hsorted.subperm hsubset).perm_of_length_le (by omega)
    exact hperm.nodup_iff.mp hsorted
  · intro hnodup
    have hle := (hsorted.subperm hsubset).length_le
    have hge := (hnodup.subperm fun _ => mem_keys_ofList.mpr).length_le
    omega

theorem ofList_perm (h : (keys pairs).Nodup) : (ofList pairs).Perm pairs := by
  have hsubperm := (sorted_ofList pairs).nodup.subperm fun _ => mem_of_mem_ofList
  exact hsubperm.perm_of_length_le (length_ofList_eq_iff.mpr h).ge

end Assoc

-- -----------------------------------------------------------------------------
-- Keys of YAML data
-- -----------------------------------------------------------------------------

namespace Yaml.Data

open Value (keyOfYaml ofYaml Converts)

def KeysApart (data : Data) : Prop :=
  ∀ entries, (mapping entries).Within data →
    entries.Pairwise fun earlier later => earlier.1.sameKey later.1 = false

/-- A string key is spelled like a number or a truth value that is a key too. -/
def Ambiguous (entries : List (Data × Data)) : Prop :=
  ∃ s key x y, (.string s, x) ∈ entries ∧ (key, y) ∈ entries ∧ (∀ other, key ≠ .string other) ∧
    keyOfYaml key = .ok s

variable {key other : Data} {name : String} {entries : List (Data × Data)}

/-- Keys of one spelling are the same, unless just one of them is a string. -/
theorem sameKey_of_keyOfYaml (hkey : keyOfYaml key = .ok name) (hother : keyOfYaml other = .ok name) :
    key.sameKey other = true ∨ (key = .string name ∧ ∀ s, other ≠ .string s) ∨
      (other = .string name ∧ ∀ s, key ≠ .string s) := by
  cases key with
  | string s =>
    obtain rfl := Except.ok.inj hkey
    cases other with
    | string t =>
      obtain rfl := Except.ok.inj hother
      exact .inl (by simp [sameKey])
    | _ => exact .inr (.inl ⟨rfl, fun _ => Data.noConfusion⟩)
  | number n =>
    obtain rfl := Except.ok.inj hkey
    cases other with
    | number m =>
      rw [sameKey]
      exact .inl (Numeric.sameKey_of_text (Except.ok.inj hother).symm)
    | bool b => exact absurd (Except.ok.inj hother).symm (n.text_ne_bool b)
    | string t =>
      obtain rfl := Except.ok.inj hother
      exact .inr (.inr ⟨rfl, fun _ => Data.noConfusion⟩)
    | _ => cases hother
  | bool b =>
    obtain rfl := Except.ok.inj hkey
    cases other with
    | number m => exact absurd (Except.ok.inj hother) (m.text_ne_bool b)
    | bool c => cases b <;> cases c <;> simp_all [sameKey, keyOfYaml]
    | string t =>
      obtain rfl := Except.ok.inj hother
      exact .inr (.inr ⟨rfl, fun _ => Data.noConfusion⟩)
    | _ => cases hother
  | _ => cases hkey

section Entries

variable {entries : List (Data × Data)} {pairs : List (String × Value)} {name : String}

theorem keyOfYaml_eq (h : List.Forall₂ Converts entries pairs) :
    entries.map (fun entry => keyOfYaml entry.1) = (Assoc.keys pairs).map .ok := by
  rw [Assoc.keys, List.map_map, ← List.forall₂_eq_eq_eq, List.forall₂_map_left_iff,
    List.forall₂_map_right_iff]
  exact h.imp fun _ _ hconverts => hconverts.1

theorem not_ambiguous (h : (entries.map fun entry => keyOfYaml entry.1).Nodup) :
    ¬Ambiguous entries := by
  rintro ⟨s, key, x, y, hstring, hkey, hne, hname⟩
  have heq := List.inj_on_of_nodup_map h hstring hkey hname.symm
  exact hne s (Prod.mk.inj heq).1.symm

theorem nodup_iff (hkeys : entries.Pairwise fun earlier later => earlier.1.sameKey later.1 = false)
    (h : List.Forall₂ Converts entries pairs) :
    (Assoc.keys pairs).Nodup ↔ ¬Ambiguous entries := by
  have hmap : (entries.map fun entry => keyOfYaml entry.1).Nodup ↔ (Assoc.keys pairs).Nodup := by
    rw [keyOfYaml_eq h]
    exact List.nodup_map_iff fun _ _ => Except.ok.inj
  rw [← hmap]
  refine ⟨not_ambiguous, fun hclear => ?_⟩
  refine List.pairwise_map.mpr (hkeys.imp_of_mem fun {a b} ha hb hdiffer heq => hclear ?_)
  obtain ⟨pair, -, hname, -⟩ := forall₂_exists_mem h ha
  obtain hsame | ⟨hstring, hne⟩ | ⟨hstring, hne⟩ := sameKey_of_keyOfYaml hname (heq ▸ hname)
  · rw [hsame] at hdiffer
    cases hdiffer
  · exact ⟨pair.1, b.1, a.2, b.2, hstring ▸ ha, hb, hne, heq ▸ hname⟩
  · exact ⟨pair.1, a.1, b.2, a.2, hstring ▸ hb, ha, hne, hname⟩

theorem lastDefined_eq_none (h : List.Forall₂ Converts entries pairs) :
    lastDefined pairs name = none ↔ ∀ entry ∈ entries, keyOfYaml entry.1 ≠ .ok name := by
  rw [← Option.not_isSome_iff_eq_none, lastDefined_isSome]
  constructor
  · intro hnone entry hmem hname
    obtain ⟨⟨other, value⟩, hpair, hother, -⟩ := forall₂_exists_mem h hmem
    obtain rfl := Except.ok.inj (hother.symm.trans hname)
    exact hnone ⟨value, hpair⟩
  · rintro hnone ⟨value, hmem⟩
    obtain ⟨entry, hentry, hname, -⟩ := forall₂_exists_mem h.flip hmem
    exact hnone entry hentry hname

theorem lastDefined_eq_some (h : List.Forall₂ Converts entries pairs) {value : Value} :
    lastDefined pairs name = some value ↔
      ∃ before key child after, entries = before ++ (key, child) :: after ∧
        keyOfYaml key = .ok name ∧ ofYaml child = .ok value ∧
        ∀ entry ∈ after, keyOfYaml entry.1 ≠ .ok name := by
  induction h with
  | nil => simp [lastDefined]
  | @cons entry pair entries pairs hconverts hrest ih =>
    obtain ⟨hname, hvalue⟩ := hconverts
    rw [lastDefined_cons, Option.or_eq_some_iff, ih]
    constructor
    · rintro (⟨before, key, child, after, rfl, hlast⟩ | ⟨hnone, hfirst⟩)
      · exact ⟨entry :: before, key, child, after, rfl, hlast⟩
      · split at hfirst
        · rename_i heq
          obtain rfl := Option.some.inj hfirst
          refine ⟨[], entry.1, entry.2, entries, rfl, heq ▸ hname, hvalue, ?_⟩
          exact (lastDefined_eq_none hrest).mp hnone
        · cases hfirst
    · rintro ⟨before, key, child, after, heq, hkey, hchild, hafter⟩
      cases before with
      | nil =>
        obtain ⟨rfl, rfl⟩ := List.cons.inj heq
        obtain rfl := Except.ok.inj (hname.symm.trans hkey)
        obtain rfl := Except.ok.inj (hvalue.symm.trans hchild)
        exact .inr ⟨(lastDefined_eq_none hrest).mpr hafter, by simp⟩
      | cons first before =>
        obtain ⟨rfl, rfl⟩ := List.cons.inj heq
        exact .inl ⟨before, key, child, after, rfl, hkey, hchild, hafter⟩

end Entries

theorem keysApart_inherited : Inherited KeysApart where
  leaf h entries hwithin := by cases h <;> cases hwithin
  sequence h entries hwithin := by
    cases hwithin with
    | item hmem hwithin => exact h _ hmem entries hwithin
  mapping hkeys h entries hwithin := by
    cases hwithin with
    | refl => exact hkeys
    | child hmem hwithin => exact h _ _ hmem entries hwithin
  tagged h entries hwithin := by
    cases hwithin with
    | content hwithin => exact h entries hwithin

theorem ofText?_keysApart {text : String} {data : Data} (h : ofText? text = some data) :
    data.KeysApart :=
  ofText?_inherited keysApart_inherited h

-- -----------------------------------------------------------------------------
-- Places
-- -----------------------------------------------------------------------------

/-- The steps of the location lead from `whole` to the data. A key is given by
the string that it becomes, and tags are no steps. -/
inductive At (whole : Data) : Location → Data → Prop
  | root : At whole .root whole
  | key {parent : Location} {entries : List (Data × Data)} {key child : Data} {name : String} :
      At whole parent (.mapping entries) → (key, child) ∈ entries → keyOfYaml key = .ok name →
      At whole (.key parent name) child
  | index {parent : Location} {items : List Data} {position : Nat} {item : Data} :
      At whole parent (.sequence items) → items[position]? = some item →
      At whole (.index parent position) item
  | content {location : Location} {tag : String} {content : Data} :
      At whole location (.tagged tag content) → At whole location content

theorem Within.trans {inner middle outer : Data} (h : Within inner middle)
    (h' : Within middle outer) : Within inner outer := by
  induction h' with
  | refl => exact h
  | item hmem _ ih => exact .item hmem ih
  | child hmem _ ih => exact .child hmem ih
  | content _ ih => exact .content ih

theorem At.within {whole part : Data} {location : Location} (h : whole.At location part) :
    part.Within whole := by
  induction h with
  | root => exact .refl
  | key _ hmem _ ih => exact (Within.child hmem .refl).trans ih
  | index _ hget ih => exact (Within.item (List.mem_of_getElem? hget) .refl).trans ih
  | content _ ih => exact (Within.content .refl).trans ih

end Yaml.Data

-- -----------------------------------------------------------------------------
-- Conversion of mappings
-- -----------------------------------------------------------------------------

namespace Value

open Yaml (Data)

variable {data part : Data} {entries : List (Data × Data)} {items : List Data} {value : Value}

theorem ofYaml_sequence_eq_ok :
    ofYaml (.sequence items) = .ok value ↔ ∃ values,
      List.Forall₂ (fun item value => ofYaml item = .ok value) items values ∧
        array values = value := by
  rw [ofYaml, map_eq_ok]
  simp only [itemsOfYaml_eq_ok]

theorem ofYaml_mapping_eq_ok :
    ofYaml (.mapping entries) = .ok value ↔ ∃ pairs,
      List.Forall₂ Converts entries pairs ∧ ofPairs pairs = value := by
  rw [ofYaml, map_eq_ok]
  simp only [pairsOfYaml_eq_ok]

theorem exists_ofYaml (hwithin : part.Within data) (h : ofYaml data = .ok value) :
    ∃ converted, ofYaml part = .ok converted := by
  induction hwithin generalizing value with
  | refl => exact ⟨value, h⟩
  | item hmem _ ih =>
    obtain ⟨values, hvalues, -⟩ := ofYaml_sequence_eq_ok.mp h
    obtain ⟨_, -, hitem⟩ := forall₂_exists_mem hvalues hmem
    exact ih hitem
  | child hmem _ ih =>
    obtain ⟨pairs, hpairs, -⟩ := ofYaml_mapping_eq_ok.mp h
    obtain ⟨_, -, -, hchild⟩ := forall₂_exists_mem hpairs hmem
    exact ih hchild
  | content _ ih =>
    rw [ofYaml] at h
    exact ih h

/-- The members are as many as the entries and hold the conversion of each of
them under its key. -/
structure Lossless (entries : List (Data × Data)) (members : Members) : Prop where
  length_eq : members.length = entries.length
  holds : ∀ key child, (key, child) ∈ entries → ∃ name converted,
    keyOfYaml key = .ok name ∧ ofYaml child = .ok converted ∧ (name, converted) ∈ members

theorem lossless_iff {pairs : List (String × Value)}
    (hkeys : entries.Pairwise fun earlier later => earlier.1.sameKey later.1 = false)
    (h : List.Forall₂ Converts entries pairs) :
    Lossless entries (Assoc.ofList pairs) ↔ ¬Data.Ambiguous entries := by
  rw [← Data.nodup_iff hkeys h]
  constructor
  · intro hlossless
    exact Assoc.length_ofList_eq_iff.mp (hlossless.length_eq.trans h.length_eq)
  · intro hnodup
    refine ⟨(Assoc.length_ofList_eq_iff.mpr hnodup).trans h.length_eq.symm, fun key child hmem => ?_⟩
    obtain ⟨⟨name, converted⟩, hpair, hname, hchild⟩ := forall₂_exists_mem h hmem
    exact ⟨name, converted, hname, hchild, (Assoc.ofList_perm hnodup).mem_iff.mpr hpair⟩

theorem at_ofYaml (hkeys : data.KeysApart)
    (hclear : ∀ entries, (Data.mapping entries).Within data → ¬Data.Ambiguous entries)
    (hvalue : ofYaml data = .ok value) {location : Location} (h : data.At location part) :
    ∃ converted, ofYaml part = .ok converted ∧ value.At location converted := by
  induction h with
  | root => exact ⟨value, hvalue, .root⟩
  | key hparent hmem hname ih =>
    obtain ⟨_, hconverted, hat⟩ := ih
    obtain ⟨pairs, hpairs, rfl⟩ := ofYaml_mapping_eq_ok.mp hconverted
    have hwithin := hparent.within
    have hlossless := (lossless_iff (hkeys _ hwithin) hpairs).mpr (hclear _ hwithin)
    obtain ⟨other, child, hother, hchild, hin⟩ := hlossless.holds _ _ hmem
    obtain rfl := Except.ok.inj (hname.symm.trans hother)
    exact ⟨child, hchild, .key hat hin⟩
  | @index _ _ position _ _ hget ih =>
    obtain ⟨_, hconverted, hat⟩ := ih
    obtain ⟨values, hvalues, rfl⟩ := ofYaml_sequence_eq_ok.mp hconverted
    have hrelated := forall₂_getElem? hvalues position
    rw [hget] at hrelated
    cases hconverted : values[position]? with
    | none => simp [hconverted] at hrelated
    | some converted => exact ⟨converted, by simpa [hconverted] using hrelated, .index hat hconverted⟩
  | content _ ih =>
    obtain ⟨converted, hconverted, hat⟩ := ih
    rw [ofYaml] at hconverted
    exact ⟨converted, hconverted, hat⟩

/-- Each mapping becomes an object in which a name stands for the last entry
whose key is spelled so; no entry is lost in a mapping exactly if no string among
its keys is spelled like a number or a truth value among them. If this is so
throughout, each part of the data is converted where it stands. -/
theorem entries_kept (hkeys : data.KeysApart) (hvalue : ofYaml data = .ok value) :
    (∀ entries, (Data.mapping entries).Within data → ∃ members,
      ofYaml (.mapping entries) = .ok (.object members) ∧
        (Lossless entries members ↔ ¬Data.Ambiguous entries) ∧
        ∀ name converted, members.lookup name = some converted ↔
          ∃ before key child after, entries = before ++ (key, child) :: after ∧
            keyOfYaml key = .ok name ∧ ofYaml child = .ok converted ∧
            ∀ entry ∈ after, keyOfYaml entry.1 ≠ .ok name) ∧
      ((∀ entries, (Data.mapping entries).Within data → ¬Data.Ambiguous entries) →
        ∀ location part, data.At location part →
          ∃ converted, ofYaml part = .ok converted ∧ value.At location converted) := by
  refine ⟨fun entries hwithin => ?_, fun hclear location part => at_ofYaml hkeys hclear hvalue⟩
  obtain ⟨_, hconverted⟩ := exists_ofYaml hwithin hvalue
  obtain ⟨pairs, hpairs, rfl⟩ := ofYaml_mapping_eq_ok.mp hconverted
  refine ⟨Assoc.ofList pairs, hconverted, lossless_iff (hkeys entries hwithin) hpairs, ?_⟩
  intro name converted
  rw [Assoc.lookup_ofList]
  exact Data.lastDefined_eq_some hpairs

theorem entries_kept_mixed :
    let entries : List (Data × Data) :=
      [(.number (.finite (.integer 1)), .null), (.bool true, .string "x"), (.string "2", .null)]
    let data : Data := .sequence [.tagged "t" (.mapping entries)]
    let members : Members := [("1", .null), ("2", .null), ("true", .string "x")]
    let value : Value := .array [.object members]
    data.KeysApart ∧ ofYaml data = .ok value ∧ (Data.mapping entries).Within data ∧
      Lossless entries members ∧ value.At (.key (.index .root 0) "true") (.string "x") := by
  intro entries data members value
  have hkeys : data.KeysApart := by
    refine Data.keysApart_inherited.sequence (List.forall_mem_singleton.mpr ?_)
    refine Data.keysApart_inherited.tagged (Data.keysApart_inherited.mapping ?_ fun key child hmem => ?_)
    · simp [entries, Data.sameKey]
    · simp only [entries, List.mem_cons, Prod.mk.injEq, List.not_mem_nil, or_false] at hmem
      obtain ⟨-, rfl⟩ | ⟨-, rfl⟩ | ⟨-, rfl⟩ := hmem
      · exact Data.keysApart_inherited.leaf .null
      · exact Data.keysApart_inherited.leaf .string
      · exact Data.keysApart_inherited.leaf .null
  have hvalue : ofYaml data = .ok value := by rfl
  have hconverted : ofYaml (.mapping entries) = .ok (.object members) := by rfl
  have hat : data.At (.index .root 0) (.mapping entries) := .content (.index .root rfl)
  have hclear : ¬Data.Ambiguous entries := by
    refine Data.not_ambiguous ?_
    have hnames : entries.map (fun entry => keyOfYaml entry.1) = [.ok "1", .ok "true", .ok "2"] := by
      rfl
    rw [hnames]
    simp
  have hall : ∀ others, (Data.mapping others).Within data → ¬Data.Ambiguous others := by
    intro others hwithin
    dsimp only [data] at hwithin
    cases hwithin with
    | item hmem hwithin =>
      obtain rfl := List.mem_singleton.mp hmem
      cases hwithin with
      | content hwithin =>
        cases hwithin with
        | refl => exact hclear
        | child hmem hwithin =>
          simp only [entries, List.mem_cons, Prod.mk.injEq, List.not_mem_nil, or_false] at hmem
          obtain ⟨-, rfl⟩ | ⟨-, rfl⟩ | ⟨-, rfl⟩ := hmem <;> cases hwithin
  obtain ⟨hmappings, hplaces⟩ := entries_kept hkeys hvalue
  refine ⟨hkeys, hvalue, hat.within, ?_, ?_⟩
  · obtain ⟨others, hothers, hlossless, -⟩ := hmappings entries hat.within
    obtain rfl := Value.object.inj (Except.ok.inj (hconverted.symm.trans hothers))
    exact hlossless.mpr hclear
  · have hentry : (Data.bool true, Data.string "x") ∈ entries := by simp [entries]
    obtain ⟨converted, hx, hplace⟩ := hplaces hall _ _ (.key hat hentry rfl)
    obtain rfl := Except.ok.inj hx
    exact hplace

/-- The number `1` and the string `"1"`: the second entry replaces the first
one. -/
theorem entry_replaced :
    ¬∀ (data : Data) (value : Value), data.KeysApart → ofYaml data = .ok value →
      ∀ entries, (Data.mapping entries).Within data → ∃ members,
        ofYaml (.mapping entries) = .ok (.object members) ∧ Lossless entries members := by
  intro hall
  let entries : List (Data × Data) :=
    [(.number (.finite (.integer 1)), .string "a"), (.string "1", .string "b")]
  have hvalue : ofYaml (.mapping entries) = .ok (.object [("1", .string "b")]) := by rfl
  have hkeys : (Data.mapping entries).KeysApart := by
    refine Data.keysApart_inherited.mapping (by simp [entries, Data.sameKey]) fun key child hmem => ?_
    simp only [entries, List.mem_cons, Prod.mk.injEq, List.not_mem_nil, or_false] at hmem
    obtain ⟨-, rfl⟩ | ⟨-, rfl⟩ := hmem <;> exact Data.keysApart_inherited.leaf .string
  obtain ⟨members, hmembers, hlossless⟩ := hall _ _ hkeys hvalue entries .refl
  rw [hvalue] at hmembers
  obtain rfl := Value.object.inj (Except.ok.inj hmembers)
  cases hlossless.length_eq

end Value

end TreeSchema
