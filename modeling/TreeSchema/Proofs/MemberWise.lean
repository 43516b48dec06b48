import Mathlib.Data.List.Perm.Basic
import TreeSchema.Proofs.WellFormed

/-!
# Objects member by member

A node with neither `required` nor limits on the size checks an object one
member at a time (`checkObject_memberWise`): what it finds in an object is what
it finds in two parts of it, and in a single member it finds what the schemas
that claim its key find, or what `additionalProperties` finds if none claims it.
-/

namespace TreeSchema

-- -----------------------------------------------------------------------------
-- Parts of an object

namespace Assoc

variable {β : Type} {entries whole left right : List (String × β)}

/-- `whole` holds what the two parts hold, and these have no key in common. -/
structure DisjointUnion (whole left right : List (String × β)) : Prop where
  lookup : ∀ key, whole.lookup key = (left.lookup key).or (right.lookup key)
  disjoint : ∀ key, left.lookup key = none ∨ right.lookup key = none

theorem DisjointUnion.perm (h : DisjointUnion whole left right) (hwhole : Sorted whole)
    (hleft : Sorted left) (hright : Sorted right) : whole.Perm (left ++ right) := by
  have hapart : (left ++ right).Nodup := by
    refine List.nodup_append.mpr ⟨hleft.nodup, hright.nodup, ?_⟩
    rintro ⟨key, value⟩ hmem _ hmem' rfl
    rw [hleft.mem_iff_lookup] at hmem
    rw [hright.mem_iff_lookup] at hmem'
    rcases h.disjoint key with hnone | hnone <;> simp_all
  refine (List.perm_ext_iff_of_nodup hwhole.nodup hapart).mpr ?_
  rintro ⟨key, value⟩
  rw [List.mem_append, hwhole.mem_iff_lookup, hleft.mem_iff_lookup, hright.mem_iff_lookup, h.lookup]
  rcases h.disjoint key with hnone | hnone <;> simp [hnone]

theorem DisjointUnion.elim {γ : Type} (h : DisjointUnion whole left right) (key : String)
    (g : β → List γ) :
    (whole.lookup key).elim [] g = (left.lookup key).elim [] g ++ (right.lookup key).elim [] g := by
  rw [h.lookup]
  rcases h.disjoint key with hnone | hnone <;> simp [hnone]

theorem Sorted.flatMap_lookup {γ : Type} (h : Sorted entries) (g : β → List γ) :
    (entries.flatMap fun entry => if entry.1 = key then g entry.2 else []) =
      (entries.lookup key).elim [] g := by
  induction entries with
  | nil => rfl
  | cons entry rest ih =>
    obtain ⟨name, kept⟩ := entry
    obtain ⟨hhead, htail⟩ := List.pairwise_cons.mp h
    rw [List.flatMap_cons, ih htail]
    by_cases heq : name = key
    · subst heq
      have hrest : rest.lookup name = none := by
        refine List.lookup_eq_none_iff.mpr fun other hmem => ?_
        simpa using String.ne_of_lt (hhead other hmem)
      simp [hrest]
    · simp [heq, List.lookup_cons, beq_eq_false_iff_ne.mpr (Ne.symm heq)]

end Assoc

namespace Validation

section Keywords

variable {check : Check} {node whole left right : Members} {f : Frame}

-- -----------------------------------------------------------------------------
-- Two parts

theorem append_union {α : Type} {a a' a'' b b' b'' : List α} (ha : a.Perm (a' ++ a''))
    (hb : b.Perm (b' ++ b'')) : (a ++ b).Perm (a' ++ b' ++ (a'' ++ b'')) := by
  refine (ha.append hb).trans ?_
  simp only [List.append_assoc]
  refine .append_left a' ?_
  simp only [← List.append_assoc]
  exact .append_right b'' List.perm_append_comm

theorem flatMap_filter_union {α β : Type} {whole left right : List α}
    (h : whole.Perm (left ++ right)) (p : α → Bool) (g : α → List β) :
    ((whole.filter p).flatMap g).Perm
      ((left.filter p).flatMap g ++ (right.filter p).flatMap g) := by
  rw [← List.flatMap_append, ← List.filter_append]
  exact (h.filter p).flatMap_right g

theorem checkProperties_union (h : Assoc.DisjointUnion whole left right) :
    (checkProperties check whole node f).Perm
      (checkProperties check left node f ++ checkProperties check right node f) := by
  unfold checkProperties
  simp only [h.elim]
  exact (List.flatMap_append_perm ..).symm

/-- A pattern that does not compile would be reported for each part. -/
theorem checkPatternProperties_union {patterns : List (String × Option Pattern × Value)}
    (hcompile : ∀ entry ∈ patterns, entry.2.1.isSome) (h : whole.Perm (left ++ right)) :
    (checkPatternProperties check whole patterns f).Perm
      (checkPatternProperties check left patterns f ++
        checkPatternProperties check right patterns f) := by
  refine .trans (.flatMap_left _ ?_) (List.flatMap_append_perm ..).symm
  rintro ⟨source, pattern?, schema⟩ hmem
  cases pattern? with
  | none => simpa using hcompile _ hmem
  | some pattern => exact flatMap_filter_union h _ _

theorem checkAdditional_union (patterns : List (String × Option Pattern × Value))
    (h : whole.Perm (left ++ right)) :
    (checkAdditional check whole node patterns f).Perm
      (checkAdditional check left node patterns f ++
        checkAdditional check right node patterns f) := by
  unfold checkAdditional
  cases node.lookup "additionalProperties" with
  | none => exact .nil
  | some additional => exact flatMap_filter_union h _ _

-- -----------------------------------------------------------------------------
-- A single member

/-- The schemas for a key: the declared one first, then those whose pattern
matches, in the order of the patterns. -/
def claims (node : Members) (key : String) : List Value :=
  ((declaredProperties node).lookup key).toList ++
    ((patternProperties node).filter fun entry => entry.2.1.any (·.matchesText key)).map (·.2.2)

def checkUnclaimed (check : Check) (node : Members) (key : String) (child : Value) (f : Frame) :
    List Violation :=
  match node.lookup "additionalProperties" with
  | none => []
  | some (.bool false) => [⟨.key f.location key, .propertyNotAllowed⟩]
  | some schema => check (f.atKey key child schema)

def checkMember (check : Check) (node : Members) (key : String) (child : Value) (f : Frame) :
    List Violation :=
  ((claims node key).flatMap fun schema => check (f.atKey key child schema)) ++
    if (claims node key).isEmpty then checkUnclaimed check node key child f else []

variable {key : String} {child : Value}

theorem checkProperties_singleton (hsorted : Assoc.Sorted (declaredProperties node)) :
    checkProperties check [(key, child)] node f =
      ((declaredProperties node).lookup key).toList.flatMap fun schema =>
        check (f.atKey key child schema) := by
  have hentry (entry : String × Value) :
      (([(key, child)] : Members).lookup entry.1).elim []
        (fun found => check (f.atKey entry.1 found entry.2)) =
        if entry.1 = key then check (f.atKey key child entry.2) else [] := by
    by_cases heq : entry.1 = key
    · simp [heq]
    · simp [heq, List.lookup_cons, beq_eq_false_iff_ne.mpr heq]
  simp only [checkProperties, hentry]
  rw [hsorted.flatMap_lookup fun schema => check (f.atKey key child schema)]
  cases (declaredProperties node).lookup key <;> simp

theorem checkPatternProperties_singleton {patterns : List (String × Option Pattern × Value)}
    (hcompile : ∀ entry ∈ patterns, entry.2.1.isSome) :
    checkPatternProperties check [(key, child)] patterns f =
      ((patterns.filter fun entry => entry.2.1.any (·.matchesText key)).map (·.2.2)).flatMap
        fun schema => check (f.atKey key child schema) := by
  induction patterns with
  | nil => rfl
  | cons entry patterns ih =>
    obtain ⟨source, pattern?, schema⟩ := entry
    rw [List.forall_mem_cons] at hcompile
    have hrest := ih hcompile.2
    simp only [checkPatternProperties, List.flatMap_cons] at hrest ⊢
    rw [hrest]
    cases pattern? with
    | none => simp at hcompile
    | some pattern => by_cases hmatch : pattern.matchesText key = true <;> simp [hmatch]

theorem isAdditional_eq_isEmpty :
    isAdditional node (patternProperties node) key = (claims node key).isEmpty := by
  rw [Bool.eq_iff_iff]
  simp [isAdditional, claims, Assoc.contains, List.filter_eq_nil_iff]

theorem checkAdditional_singleton (htrue : ∀ g : Frame, g.schema = .bool true → check g = []) :
    checkAdditional check [(key, child)] node (patternProperties node) f =
      if (claims node key).isEmpty then checkUnclaimed check node key child f else [] := by
  unfold checkAdditional checkUnclaimed
  rw [← isAdditional_eq_isEmpty]
  cases hadditional : isAdditional node (patternProperties node) key with
  | false => cases node.lookup "additionalProperties" <;> simp [hadditional]
  | true =>
    cases node.lookup "additionalProperties" with
    | none => simp
    | some schema =>
      cases schema with
      | bool b =>
        cases b with
        | false => simp [hadditional]
        | true => simp [htrue (f.atKey key child (.bool true)) rfl]
      | _ => simp [hadditional]

-- -----------------------------------------------------------------------------
-- The object as a whole

theorem checkObject_plain
    (hplain : ∀ keyword ∈ ["required", "minProperties", "maxProperties"],
      node.lookup keyword = none) (members : Members) :
    checkObject check members node f =
      checkProperties check members node f ++
      checkPatternProperties check members (patternProperties node) f ++
      checkAdditional check members node (patternProperties node) f := by
  simp (disch := decide) [checkObject, checkRequired, memberCountFaults, Members.items?,
    Members.count?, Members.number?, hplain, Frame.violations]

theorem isSome_of_compile
    (hcompile : ∀ patterns, node.members? "patternProperties" = some patterns →
      ∀ source schema, (source, schema) ∈ patterns → ∃ pattern, Pattern.ofString? source = some pattern) :
    ∀ entry ∈ patternProperties node, entry.2.1.isSome := by
  unfold patternProperties
  cases hpatterns : node.members? "patternProperties" with
  | none => simp
  | some patterns =>
    simp only [Option.getD_some, List.forall_mem_map, Prod.forall]
    intro source schema hmem
    exact Option.isSome_iff_exists.mpr (hcompile patterns hpatterns source schema hmem)

theorem sorted_declaredProperties
    (hdeclared : ∀ declared, node.members? "properties" = some declared → Assoc.Sorted declared) :
    Assoc.Sorted (declaredProperties node) := by
  unfold declaredProperties
  cases hproperties : node.members? "properties" with
  | none => exact .nil
  | some declared => exact hdeclared declared hproperties

end Keywords

theorem check_true {f : Frame} (scope : Scope) (bound : Nat) (h : f.schema = .bool true) :
    check scope bound f = [] := by
  cases bound with
  | zero => rfl
  | succ bound => simp [check, step, h]

/-- Let a node have neither `required` nor limits on the number of members, let
its patterns compile, and let its declared properties stand in key order, as
those of every parsed object do. In a disjoint union of two objects it finds
what it finds in either, up to the order. In a single member it finds, in this
order, what the declared schema of the key finds, what the schemas of the
matching patterns find, and, only if there are no such schemas, what
`additionalProperties` finds. -/
theorem checkObject_memberWise (scope : Scope) (bound : Nat) {node : Members}
    (hplain : ∀ keyword ∈ ["required", "minProperties", "maxProperties"],
      node.lookup keyword = none)
    (hcompile : ∀ patterns, node.members? "patternProperties" = some patterns →
      ∀ source schema, (source, schema) ∈ patterns → ∃ pattern, Pattern.ofString? source = some pattern)
    (hdeclared : ∀ declared, node.members? "properties" = some declared → Assoc.Sorted declared)
    (f : Frame) :
    (∀ whole left right : Members, Assoc.Sorted whole → Assoc.Sorted left → Assoc.Sorted right →
      Assoc.DisjointUnion whole left right →
      (checkObject (check scope bound) whole node f).Perm
        (checkObject (check scope bound) left node f ++
          checkObject (check scope bound) right node f)) ∧
    ∀ key child, checkObject (check scope bound) [(key, child)] node f =
      checkMember (check scope bound) node key child f := by
  have hpatterns := isSome_of_compile hcompile
  simp only [checkObject_plain hplain]
  constructor
  · intro whole left right hwhole hleft hright hunion
    have hperm := hunion.perm hwhole hleft hright
    refine append_union (append_union (checkProperties_union hunion) ?_) ?_
    · exact checkPatternProperties_union hpatterns hperm
    · exact checkAdditional_union (patternProperties node) hperm
  · intro key child
    rw [checkProperties_singleton (sorted_declaredProperties hdeclared),
      checkPatternProperties_singleton hpatterns,
      checkAdditional_singleton fun g => check_true scope bound, checkMember, claims,
      List.flatMap_append]

theorem checkObject_memberWise_refused :
    let number : Value := .object [("type", .string "number")]
    let node : Members := [("additionalProperties", .bool false),
      ("patternProperties", .object [("b", .bool false)]), ("properties", .object [("ab", number)])]
    let scope : Scope := ⟨.object node, .empty⟩
    let whole : Members := [("ab", .null), ("b", .null), ("c", .null)]
    let left : Members := [("ab", .null), ("c", .null)]
    let right : Members := [("b", .null)]
    let f : Frame := ⟨.object whole, .root, .object node, .empty⟩
    (∀ keyword ∈ ["required", "minProperties", "maxProperties"], node.lookup keyword = none) ∧
      (∀ patterns, node.members? "patternProperties" = some patterns →
        ∀ source schema, (source, schema) ∈ patterns →
          ∃ pattern, Pattern.ofString? source = some pattern) ∧
      (∀ declared, node.members? "properties" = some declared → Assoc.Sorted declared) ∧
      Assoc.DisjointUnion whole left right ∧
      (checkObject (check scope 2) whole node f).Perm
        (checkObject (check scope 2) left node f ++ checkObject (check scope 2) right node f) ∧
      (checkObject (check scope 2) whole node f).map Violation.location =
        [.key .root "ab", .key .root "ab", .key .root "b", .key .root "c"] ∧
      (checkObject (check scope 2) [("ab", .null)] node f).length = 2 ∧
      checkObject (check scope 2) [("c", .null)] node f =
        [⟨.key .root "c", .propertyNotAllowed⟩] := by
  intro number node scope whole left right f
  have hplain : ∀ keyword ∈ ["required", "minProperties", "maxProperties"],
      node.lookup keyword = none := by simp [node, List.lookup_cons]
  have hcompile : ∀ patterns, node.members? "patternProperties" = some patterns →
      ∀ source schema, (source, schema) ∈ patterns →
        ∃ pattern, Pattern.ofString? source = some pattern := by
    rintro patterns ⟨⟩ source schema hmem
    obtain ⟨rfl, rfl⟩ := Prod.mk.inj (List.mem_singleton.mp hmem)
    exact Option.isSome_iff_exists.mp (by decide)
  have hdeclared : ∀ declared, node.members? "properties" = some declared →
      Assoc.Sorted declared := by
    rintro declared ⟨⟩
    exact List.pairwise_singleton ..
  have hunion : Assoc.DisjointUnion whole left right := by
    refine ⟨fun key => ?_, fun key => ?_⟩ <;>
      simp only [whole, left, right, List.lookup_cons, List.lookup_nil] <;> grind
  have hsorted : Assoc.Sorted whole ∧ Assoc.Sorted left ∧ Assoc.Sorted right := by
    simp only [Assoc.Sorted, whole, left, right]
    decide
  obtain ⟨hparts, hmember⟩ := checkObject_memberWise scope 2 hplain hcompile hdeclared f
  refine ⟨hplain, hcompile, hdeclared, hunion,
    hparts whole left right hsorted.1 hsorted.2.1 hsorted.2.2 hunion, ?_, ?_, ?_⟩
  · decide
  · rw [hmember]
    decide
  · rw [hmember]
    rfl

end Validation

end TreeSchema
