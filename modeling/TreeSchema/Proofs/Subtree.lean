import TreeSchema.Validation

/-!
# Parts of a document

A schema that a validation meets is a part of the root or of a registered
document. A part is no higher than the whole and holds no other reference
tokens, and a reference always leads to a part of some document.
-/

namespace TreeSchema

theorem mem_of_lookup {β : Type} {entries : List (String × β)} {key : String} {value : β}
    (h : entries.lookup key = some value) : (key, value) ∈ entries := by
  obtain ⟨before, after, rfl, -⟩ := List.lookup_eq_some_iff.mp h
  simp

namespace Value

inductive Within : Value → Value → Prop
  | refl {value : Value} : Within value value
  | item {inner item : Value} {items : List Value} :
      item ∈ items → Within inner item → Within inner (.array items)
  | member {inner child : Value} {key : String} {members : Members} :
      (key, child) ∈ members → Within inner child → Within inner (.object members)

theorem Within.trans {inner middle outer : Value} (h : Within inner middle)
    (h' : Within middle outer) : Within inner outer := by
  induction h' with
  | refl => exact h
  | item hmem _ ih => exact .item hmem ih
  | member hmem _ ih => exact .member hmem ih

-- -----------------------------------------------------------------------------
-- Height

theorem height_pos (value : Value) : 0 < value.height := by
  cases value <;> simp [height]

theorem height_le_heightOfItems {item : Value} {items : List Value} (h : item ∈ items) :
    item.height ≤ heightOfItems items := by
  induction items with
  | nil => simp at h
  | cons first rest ih =>
    rw [heightOfItems]
    rcases List.mem_cons.mp h with rfl | h
    · exact Nat.le_max_left ..
    · exact Nat.le_trans (ih h) (Nat.le_max_right ..)

theorem height_le_heightOfMembers {key : String} {child : Value} {members : Members}
    (h : (key, child) ∈ members) : child.height ≤ heightOfMembers members := by
  induction members with
  | nil => simp at h
  | cons first rest ih =>
    obtain ⟨name, other⟩ := first
    rw [heightOfMembers]
    rcases List.mem_cons.mp h with heq | h
    · obtain ⟨rfl, rfl⟩ := Prod.mk.inj heq
      exact Nat.le_max_left ..
    · exact Nat.le_trans (ih h) (Nat.le_max_right ..)

theorem height_item_lt {item : Value} {items : List Value} (h : item ∈ items) :
    item.height < (array items).height := by
  have := height_le_heightOfItems h
  rw [height]
  omega

theorem height_member_lt {key : String} {child : Value} {members : Members}
    (h : (key, child) ∈ members) : child.height < (object members).height := by
  have := height_le_heightOfMembers h
  rw [height]
  omega

theorem Within.height_le {inner outer : Value} (h : Within inner outer) :
    inner.height ≤ outer.height := by
  induction h with
  | refl => exact Nat.le_refl _
  | item hmem _ ih => exact Nat.le_trans ih (Nat.le_of_lt (height_item_lt hmem))
  | member hmem _ ih => exact Nat.le_trans ih (Nat.le_of_lt (height_member_lt hmem))

-- -----------------------------------------------------------------------------
-- Strings under a key

variable {name : String}

theorem stringsUnder_item {text : String} {item : Value} {items : List Value}
    (h : item ∈ items) (ht : text ∈ item.stringsUnder name) :
    text ∈ stringsUnderItems name items := by
  induction items with
  | nil => simp at h
  | cons first rest ih =>
    rw [stringsUnderItems, List.mem_append]
    rcases List.mem_cons.mp h with rfl | h
    · exact .inl ht
    · exact .inr (ih h)

theorem stringsUnder_member {text key : String} {child : Value} {members : Members}
    (h : (key, child) ∈ members) (ht : text ∈ child.stringsUnder name) :
    text ∈ stringsUnderMembers name members := by
  induction members with
  | nil => simp at h
  | cons first rest ih =>
    obtain ⟨other, value⟩ := first
    rw [stringsUnderMembers, List.mem_append, List.mem_append]
    rcases List.mem_cons.mp h with heq | h
    · obtain ⟨rfl, rfl⟩ := Prod.mk.inj heq
      exact .inl (.inr ht)
    · exact .inr (ih h)

theorem Within.stringsUnder_subset {inner outer : Value} (h : Within inner outer) :
    inner.stringsUnder name ⊆ outer.stringsUnder name := by
  induction h with
  | refl => exact List.Subset.refl _
  | item hmem _ ih => exact fun text ht => stringsUnder_item hmem (ih ht)
  | member hmem _ ih => exact fun text ht => stringsUnder_member hmem (ih ht)

theorem mem_stringsUnder {text : String} {members : Members}
    (h : (name, .string text) ∈ members) : text ∈ (object members).stringsUnder name := by
  rw [stringsUnder]
  induction members with
  | nil => simp at h
  | cons first rest ih =>
    obtain ⟨other, value⟩ := first
    rw [stringsUnderMembers, List.mem_append, List.mem_append]
    rcases List.mem_cons.mp h with heq | h
    · obtain ⟨rfl, rfl⟩ := Prod.mk.inj heq
      exact .inl (.inl (by simp [asString?]))
    · exact .inr (ih h)

end Value

-- -----------------------------------------------------------------------------
-- Where references lead

namespace Reference

theorem walk_within {document target : Value} {keys : List String}
    (h : walk document keys = some target) : target.Within document := by
  induction keys generalizing document with
  | nil =>
    obtain rfl := Option.some.inj h
    exact .refl
  | cons key keys ih =>
    simp only [walk, Value.member?, Option.bind_eq_some_iff] at h
    obtain ⟨child, ⟨members, hmembers, hchild⟩, hwalk⟩ := h
    cases document with
    | object =>
      obtain rfl := Option.some.inj hmembers
      exact .member (mem_of_lookup hchild) (ih hwalk)
    | _ => simp [Value.asMembers?] at hmembers

theorem follow_within {document target : Value} {pointer : List Char}
    (h : follow document pointer = some target) : target.Within document := by
  obtain ⟨keys, -, hwalk⟩ := Option.bind_eq_some_iff.mp h
  exact walk_within hwalk

end Reference

namespace Validation.Scope

variable {scope : Scope}

def Contains (scope : Scope) (part : Value) : Prop :=
  ∃ document ∈ scope.documents, part.Within document

theorem contains_root (scope : Scope) : scope.Contains scope.root :=
  ⟨_, List.mem_cons_self, .refl⟩

theorem contains_of_within {inner outer : Value} (h : inner.Within outer)
    (houter : scope.Contains outer) : scope.Contains inner := by
  obtain ⟨document, hmem, hwithin⟩ := houter
  exact ⟨document, hmem, h.trans hwithin⟩

theorem contains_of_resolve {token : String} {target : Value}
    (h : Reference.resolve token scope.root scope.registry = some target) :
    scope.Contains target := by
  simp only [Reference.resolve] at h
  split at h
  · exact ⟨_, List.mem_cons_self, Reference.follow_within h⟩
  · obtain ⟨document, hdocument, hfollow⟩ := Option.bind_eq_some_iff.mp h
    have hmem : document ∈ scope.registry.documents.map Prod.snd :=
      List.mem_map.mpr ⟨_, mem_of_lookup hdocument, rfl⟩
    exact ⟨document, List.mem_cons_of_mem _ hmem, Reference.follow_within hfollow⟩

theorem height_le_of_mem {document : Value} {documents : List Value} (h : document ∈ documents) :
    document.height ≤ (documents.map Value.height).foldr max 0 := by
  induction documents with
  | nil => simp at h
  | cons first rest ih =>
    rcases List.mem_cons.mp h with rfl | h
    · exact Nat.le_max_left ..
    · exact Nat.le_trans (ih h) (Nat.le_max_right ..)

theorem height_le {part : Value} (h : scope.Contains part) : part.height ≤ scope.height := by
  obtain ⟨document, hmem, hwithin⟩ := h
  exact Nat.le_trans hwithin.height_le (height_le_of_mem hmem)

theorem mem_tokens {part : Value} {token : String} (h : scope.Contains part)
    (ht : token ∈ part.stringsUnder "$ref") : token ∈ scope.tokens := by
  obtain ⟨document, hmem, hwithin⟩ := h
  exact List.mem_eraseDups.mpr
    (List.mem_flatMap.mpr ⟨document, hmem, hwithin.stringsUnder_subset ht⟩)

theorem mem_tokens_of_reference {node : Members} {token : String}
    (h : scope.Contains (.object node)) (hnode : node.lookup "$ref" = some (.string token)) :
    token ∈ scope.tokens :=
  mem_tokens h (Value.mem_stringsUnder (mem_of_lookup hnode))

end Validation.Scope

end TreeSchema
