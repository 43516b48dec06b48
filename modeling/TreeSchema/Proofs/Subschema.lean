import Mathlib.Data.List.Forall2
import TreeSchema.Proofs.Subtree

/-!
# Schema positions

The members of a node under which further schemas stand, and nodes that differ
in those schemas only. `Members.Related R` relates two nodes whose schemas at
corresponding positions are related by `R`; every other keyword has the same
value in both.
-/

namespace TreeSchema

namespace Value

variable {value : Value}

theorem asItems?_eq_some {items : List Value} :
    value.asItems? = some items ↔ value = .array items := by
  cases value <;> simp [asItems?]

theorem asMembers?_eq_some {members : Members} :
    value.asMembers? = some members ↔ value = .object members := by
  cases value <;> simp [asMembers?]

theorem asItems?_eq_none : value.asItems? = none ↔ ∀ items, value ≠ .array items := by
  cases value <;> simp [asItems?]

end Value

namespace Members

variable {node : Members} {keyword : String}

theorem bind_eq_some {α : Type} {read : Value → Option α} {hold : α → Value} {a : α}
    (h : ∀ value, read value = some a ↔ value = hold a) :
    (node.lookup keyword).bind read = some a ↔ node.lookup keyword = some (hold a) := by
  simp only [Option.bind_eq_some_iff, h, exists_eq_right]

theorem string?_eq_some {s : String} :
    node.string? keyword = some s ↔ node.lookup keyword = some (.string s) :=
  bind_eq_some fun value => by cases value <;> simp [Value.asString?]

theorem bool?_eq_some {b : Bool} :
    node.bool? keyword = some b ↔ node.lookup keyword = some (.bool b) :=
  bind_eq_some fun value => by cases value <;> simp [Value.asBool?]

theorem number?_eq_some {n : Number} :
    node.number? keyword = some n ↔ node.lookup keyword = some (.number n) :=
  bind_eq_some fun value => by cases value <;> simp [Value.asNumber?]

theorem items?_eq_some {items : List Value} :
    node.items? keyword = some items ↔ node.lookup keyword = some (.array items) :=
  bind_eq_some fun _ => Value.asItems?_eq_some

theorem members?_eq_some {members : Members} :
    node.members? keyword = some members ↔ node.lookup keyword = some (.object members) :=
  bind_eq_some fun _ => Value.asMembers?_eq_some

end Members

def RelatedEntry (P : String → Value → Value → Prop) (entry entry' : String × Value) : Prop :=
  entry.1 = entry'.1 ∧ P entry.1 entry.2 entry'.2

theorem lookup_related {P : String → Value → Value → Prop} {members members' : Members}
    (h : List.Forall₂ (RelatedEntry P) members members') (key : String) :
    Option.Rel (P key) (members.lookup key) (members'.lookup key) := by
  induction h with
  | nil => exact .none
  | @cons entry entry' _ _ hentry _ ih =>
    obtain ⟨name, value⟩ := entry
    obtain ⟨name', value'⟩ := entry'
    obtain ⟨rfl, hvalue⟩ : name = name' ∧ P name value value' := hentry
    by_cases heq : key = name
    · subst heq
      simpa using hvalue
    · simpa [List.lookup_cons, beq_eq_false_iff_ne.mpr heq] using ih

section Relators

variable {α β γ δ : Type} {R S : α → β → Prop} {x : Option α} {y : Option β} {xs : List α}
  {ys : List β}

theorem rel_imp (h : Option.Rel R x y) (hS : ∀ a b, R a b → S a b) : Option.Rel S x y := by
  cases h with
  | none => exact .none
  | some hab => exact .some (hS _ _ hab)

theorem rel_bind {T : γ → δ → Prop} {g : α → Option γ} {g' : β → Option δ} (h : Option.Rel R x y)
    (hT : ∀ a b, R a b → Option.Rel T (g a) (g' b)) : Option.Rel T (x.bind g) (y.bind g') := by
  cases h with
  | none => exact .none
  | some hab => exact hT _ _ hab

theorem eq_of_rel {P : α → α → Prop} {x' : Option α} (h : Option.Rel P x x')
    (heq : ∀ a a', P a a' → a = a') : x = x' := by
  cases h with
  | none => rfl
  | some hP => exact congrArg some (heq _ _ hP)

theorem forall₂_imp (h : List.Forall₂ R xs ys) (hS : ∀ x ∈ xs, ∀ y ∈ ys, R x y → S x y) :
    List.Forall₂ S xs ys := by
  obtain ⟨hlength, hR⟩ := List.forall₂_iff_zip.mp h
  refine List.forall₂_iff_zip.mpr ⟨hlength, fun {x y} hmem => ?_⟩
  obtain ⟨hx, hy⟩ := List.of_mem_zip hmem
  exact hS x hx y hy (hR hmem)

theorem forall₂_exists_mem {x : α} (h : List.Forall₂ R xs ys) (hmem : x ∈ xs) :
    ∃ y ∈ ys, R x y := by
  induction h with
  | nil => exact absurd hmem List.not_mem_nil
  | cons hxy _ ih =>
    rcases List.mem_cons.mp hmem with rfl | hmem
    · exact ⟨_, List.mem_cons_self, hxy⟩
    · obtain ⟨y, hy, hR⟩ := ih hmem
      exact ⟨y, List.mem_cons_of_mem _ hy, hR⟩

theorem forall₂_exists_right {x : α} (h : List.Forall₂ R xs ys) (hmem : x ∈ xs) :
    ∃ y, R x y :=
  (forall₂_exists_mem h hmem).imp fun _ => And.right

theorem forall₂_getElem? (h : List.Forall₂ R xs ys) (position : Nat) :
    Option.Rel R xs[position]? ys[position]? := by
  induction h generalizing position with
  | nil => exact .none
  | cons hxy _ ih =>
    cases position with
    | zero => exact .some hxy
    | succ position => exact ih position

end Relators

/-- How a keyword holds schemas: it is one, or it lists some, or it names some,
or (`items`) it is one or lists some. Any other keyword is plain data. -/
inductive Role where
  | single | list | map | singleOrList | data
  deriving DecidableEq

namespace Role

def of : String → Role
  | "if" | "then" | "else" | "not" | "additionalProperties" => .single
  | "oneOf" | "anyOf" | "allOf" => .list
  | "properties" | "patternProperties" => .map
  | "items" => .singleOrList
  | _ => .data

def schemas : Role → Value → List Value
  | .single, held => [held]
  | .list, held => held.asItems?.getD []
  | .map, held => (held.asMembers?.getD []).map Prod.snd
  | .singleOrList, held => held.asItems?.getD [held]
  | .data, _ => []

/-- Two values of one keyword, with the schemas in them related. A value of the
wrong shape holds none and is the same in both. -/
inductive Related (R : Value → Value → Prop) : Role → Value → Value → Prop
  | single {held held' : Value} : R held held' → Related R .single held held'
  | list {listed listed' : List Value} : List.Forall₂ R listed listed' →
      Related R .list (.array listed) (.array listed')
  | noList {held : Value} : held.asItems? = none → Related R .list held held
  | map {named named' : Members} : List.Forall₂ (RelatedEntry fun _ => R) named named' →
      Related R .map (.object named) (.object named')
  | noMap {held : Value} : held.asMembers? = none → Related R .map held held
  | each {listed listed' : List Value} : List.Forall₂ R listed listed' →
      Related R .singleOrList (.array listed) (.array listed')
  | every {held held' : Value} : held.asItems? = none → held'.asItems? = none → R held held' →
      Related R .singleOrList held held'
  | data {held : Value} : Related R .data held held

theorem within_of_mem_schemas {role : Role} {held schema : Value}
    (h : schema ∈ role.schemas held) : schema.Within held := by
  have hitem {listed : List Value} (hitems : held.asItems? = some listed) (hmem : schema ∈ listed) :
      schema.Within held := by
    obtain rfl := Value.asItems?_eq_some.mp hitems
    exact .item hmem .refl
  cases role with
  | single => exact List.mem_singleton.mp h ▸ .refl
  | list =>
    cases hitems : held.asItems? with
    | none => simp [schemas, hitems] at h
    | some listed => exact hitem hitems (by simpa [schemas, hitems] using h)
  | map =>
    cases hmembers : held.asMembers? with
    | none => simp [schemas, hmembers] at h
    | some named =>
      obtain rfl := Value.asMembers?_eq_some.mp hmembers
      obtain ⟨entry, hentry, rfl⟩ := List.mem_map.mp h
      exact .member hentry .refl
  | singleOrList =>
    cases hitems : held.asItems? with
    | none =>
      obtain rfl : schema = held := by simpa [schemas, hitems] using h
      exact .refl
    | some listed => exact hitem hitems (by simpa [schemas, hitems] using h)
  | data => exact absurd h List.not_mem_nil

namespace Related

variable {R S : Value → Value → Prop} {role : Role} {held held' : Value}

theorem refl (h : ∀ schema ∈ role.schemas held, R schema schema) : role.Related R held held := by
  cases role with
  | single => exact .single (h held (by simp [schemas]))
  | list =>
    cases hitems : held.asItems? with
    | none => exact .noList hitems
    | some listed =>
      obtain rfl := Value.asItems?_eq_some.mp hitems
      exact .list (List.forall₂_same.mpr h)
  | map =>
    cases hmembers : held.asMembers? with
    | none => exact .noMap hmembers
    | some named =>
      obtain rfl := Value.asMembers?_eq_some.mp hmembers
      exact .map (List.forall₂_same.mpr fun entry hmem => ⟨rfl, h _ (List.mem_map_of_mem hmem)⟩)
  | singleOrList =>
    cases hitems : held.asItems? with
    | none => exact .every hitems hitems (h held (by simp [schemas, hitems]))
    | some listed =>
      obtain rfl := Value.asItems?_eq_some.mp hitems
      exact .each (List.forall₂_same.mpr h)
  | data => exact .data

theorem imp (h : role.Related R held held')
    (hS : ∀ schema ∈ role.schemas held, ∀ schema' ∈ role.schemas held',
      R schema schema' → S schema schema') : role.Related S held held' := by
  cases h with
  | single hR => exact .single (hS held (by simp [schemas]) held' (by simp [schemas]) hR)
  | list hlisted => exact .list (forall₂_imp hlisted hS)
  | noList hitems => exact .noList hitems
  | map hnamed =>
    refine .map (forall₂_imp hnamed fun entry hmem entry' hmem' hentry => ⟨hentry.1, ?_⟩)
    exact hS _ (List.mem_map_of_mem hmem) _ (List.mem_map_of_mem hmem') hentry.2
  | noMap hmembers => exact .noMap hmembers
  | each hlisted => exact .each (forall₂_imp hlisted hS)
  | every hitems hitems' hR =>
    exact .every hitems hitems'
      (hS held (by simp [schemas, hitems]) held' (by simp [schemas, hitems']) hR)
  | data => exact .data

theorem exists_right {schema : Value} (h : role.Related R held held')
    (hmem : schema ∈ role.schemas held) : ∃ schema', R schema schema' := by
  cases h with
  | single hR => exact ⟨held', List.mem_singleton.mp hmem ▸ hR⟩
  | list hlisted => exact forall₂_exists_right hlisted hmem
  | noList hitems => simp [schemas, hitems] at hmem
  | map hnamed =>
    obtain ⟨entry, hentry, rfl⟩ := List.mem_map.mp hmem
    obtain ⟨entry', hrelated⟩ := forall₂_exists_right hnamed hentry
    exact ⟨entry'.2, hrelated.2⟩
  | noMap hmembers => simp [schemas, hmembers] at hmem
  | each hlisted => exact forall₂_exists_right hlisted hmem
  | every hitems _ hR =>
    obtain rfl : schema = held := by simpa [schemas, hitems] using hmem
    exact ⟨held', hR⟩
  | data => exact absurd hmem List.not_mem_nil

theorem of_single (h : Role.single.Related R held held') : R held held' := by
  cases h with
  | single hR => exact hR

theorem eq_of_data (h : Role.data.Related R held held') : held = held' := by
  cases h with
  | data => rfl

theorem asItems? (h : Role.list.Related R held held') :
    Option.Rel (List.Forall₂ R) held.asItems? held'.asItems? := by
  cases h with
  | list hlisted => exact .some hlisted
  | noList hitems => simp [hitems]

theorem asMembers? (h : Role.map.Related R held held') :
    Option.Rel (List.Forall₂ (RelatedEntry fun _ => R)) held.asMembers? held'.asMembers? := by
  cases h with
  | map hnamed => exact .some hnamed
  | noMap hmembers => simp [hmembers]

end Related

end Role

namespace Members

def Subschema (node : Members) (schema : Value) : Prop :=
  ∃ keyword held, node.lookup keyword = some held ∧ schema ∈ (Role.of keyword).schemas held

namespace Subschema

variable {node : Members} {keyword : String} {schema : Value}

theorem ofLookup (h : node.lookup keyword = some schema)
    (hrole : Role.of keyword = .single) : node.Subschema schema :=
  ⟨keyword, schema, h, by simp [hrole, Role.schemas]⟩

theorem ofItems {listed : List Value} (h : node.lookup keyword = some (.array listed))
    (hmem : schema ∈ listed) (hrole : Role.of keyword = .list) : node.Subschema schema :=
  ⟨keyword, _, h, by simpa [hrole, Role.schemas, Value.asItems?] using hmem⟩

theorem ofMembers {named : Members} {name : String}
    (h : node.lookup keyword = some (.object named)) (hmem : (name, schema) ∈ named)
    (hrole : Role.of keyword = .map) : node.Subschema schema :=
  ⟨keyword, _, h, by simpa [hrole, Role.schemas, Value.asMembers?] using ⟨name, hmem⟩⟩

theorem ofSingleItems (h : node.lookup "items" = some schema)
    (hsingle : ∀ schemas, schema ≠ .array schemas) : node.Subschema schema := by
  have hrole : Role.of "items" = .singleOrList := rfl
  have hnone := Value.asItems?_eq_none.mpr hsingle
  exact ⟨"items", schema, h, by simp [hrole, Role.schemas, hnone]⟩

theorem ofListedItems {listed : List Value} (h : node.lookup "items" = some (.array listed))
    (hmem : schema ∈ listed) : node.Subschema schema := by
  have hrole : Role.of "items" = .singleOrList := rfl
  exact ⟨"items", _, h, by simpa [hrole, Role.schemas, Value.asItems?] using hmem⟩

theorem within (h : node.Subschema schema) : schema.Within (.object node) ∧
    schema.height < (Value.object node).height := by
  obtain ⟨keyword, held, hheld, hmem⟩ := h
  have hin := mem_of_lookup hheld
  have hlt := Value.height_member_lt hin
  have hwithin := Role.within_of_mem_schemas hmem
  exact ⟨.member hin hwithin, Nat.lt_of_le_of_lt hwithin.height_le hlt⟩

end Subschema

-- -----------------------------------------------------------------------------
-- Related nodes

def Related (R : Value → Value → Prop) (node node' : Members) : Prop :=
  ∀ keyword, Option.Rel ((Role.of keyword).Related R) (node.lookup keyword) (node'.lookup keyword)

def RelatedBy (R : String → Value → Value → Prop) (node node' : Members) : Prop :=
  ∀ keyword, Option.Rel ((Role.of keyword).Related (R keyword)) (node.lookup keyword)
    (node'.lookup keyword)

theorem related_refl {R : Value → Value → Prop} {node : Members}
    (h : ∀ schema, node.Subschema schema → R schema schema) : node.Related R node := by
  intro keyword
  cases hheld : node.lookup keyword with
  | none => exact .none
  | some held => exact .some (.refl fun schema hmem => h _ ⟨_, _, hheld, hmem⟩)

namespace RelatedBy

variable {R : String → Value → Value → Prop} {node node' : Members}

theorem ofEntries
    (h : List.Forall₂ (RelatedEntry fun keyword => (Role.of keyword).Related (R keyword)) node node') :
    node.RelatedBy R node' :=
  lookup_related h

theorem subschemas (h : node.RelatedBy R node') :
    node.RelatedBy (fun keyword schema schema' => R keyword schema schema' ∧
      node.Subschema schema ∧ node'.Subschema schema') node' := by
  intro keyword
  have hrel := h keyword
  generalize hheld : node.lookup keyword = held? at *
  generalize hheld' : node'.lookup keyword = held'? at *
  cases hrel with
  | none => exact .none
  | some hrel =>
    refine .some (hrel.imp fun schema hmem schema' hmem' hR => ⟨hR, ?_, ?_⟩)
    · exact ⟨keyword, _, hheld, hmem⟩
    · exact ⟨keyword, _, hheld', hmem'⟩

theorem of_role {keyword : String} {role : Role} (h : node.RelatedBy R node')
    (hrole : Role.of keyword = role) :
    Option.Rel (role.Related (R keyword)) (node.lookup keyword) (node'.lookup keyword) :=
  hrole ▸ h keyword

theorem lookup_eq (h : node.RelatedBy R node') (keyword : String)
    (hrole : Role.of keyword = .data) : node.lookup keyword = node'.lookup keyword :=
  eq_of_rel (h.of_role hrole) fun _ _ hheld => hheld.eq_of_data

theorem lookup (h : node.RelatedBy R node') (keyword : String)
    (hrole : Role.of keyword = .single) :
    Option.Rel (R keyword) (node.lookup keyword) (node'.lookup keyword) :=
  rel_imp (h.of_role hrole) fun _ _ hheld => hheld.of_single

theorem items? (h : node.RelatedBy R node') (keyword : String)
    (hrole : Role.of keyword = .list) :
    Option.Rel (List.Forall₂ (R keyword)) (node.items? keyword) (node'.items? keyword) :=
  rel_bind (h.of_role hrole) fun _ _ hheld => hheld.asItems?

theorem members? (h : node.RelatedBy R node') (keyword : String)
    (hrole : Role.of keyword = .map) :
    Option.Rel (List.Forall₂ (RelatedEntry fun _ => R keyword)) (node.members? keyword)
      (node'.members? keyword) :=
  rel_bind (h.of_role hrole) fun _ _ hheld => hheld.asMembers?

end RelatedBy

namespace Related

variable {R : Value → Value → Prop} {node node' : Members}

theorem relatedBy (h : node.Related R node') : node.RelatedBy (fun _ => R) node' := h

theorem ofEntries
    (h : List.Forall₂ (RelatedEntry fun keyword => (Role.of keyword).Related R) node node') :
    node.Related R node' :=
  lookup_related h

theorem subschemas (h : node.Related R node') :
    node.Related (fun schema schema' => R schema schema' ∧ node.Subschema schema ∧
      node'.Subschema schema') node' :=
  h.relatedBy.subschemas

theorem exists_right (h : node.Related R node') {schema : Value} (hsub : node.Subschema schema) :
    ∃ schema', R schema schema' := by
  obtain ⟨keyword, held, hheld, hmem⟩ := hsub
  have hrel := h keyword
  generalize node'.lookup keyword = held'? at hrel
  rw [hheld] at hrel
  cases hrel with
  | some hrel => exact hrel.exists_right hmem

theorem lookup_eq (h : node.Related R node') (keyword : String)
    (hrole : Role.of keyword = .data) : node.lookup keyword = node'.lookup keyword :=
  h.relatedBy.lookup_eq keyword hrole

end Related

end Members

end TreeSchema
