import Mathlib.Data.Finset.Card
import TreeSchema.Proofs.Descent

/-!
# The descent is bounded

A frame descends through the document its schema belongs to, and a reference
starts it over in another one, at most once for each token. `nesting_bounded`:
no chain of frames is longer than this allows, whatever the value, and what
would happen beyond the bound does not matter.
-/

namespace TreeSchema.Validation

def Scope.start (scope : Scope) (value : Value) : Frame := ⟨value, .root, scope.root, .empty⟩

inductive Nested (scope : Scope) (outer : Frame) : Nat → Frame → Prop
  | refl : Nested scope outer 0 outer
  | call {depth : Nat} {f g : Frame} :
      Nested scope outer depth f → Calls scope f g → Nested scope outer (depth + 1) g

/-- The descent with an arbitrary answer for frames beyond the bound. -/
def descend (scope : Scope) (beyond : Check) : Nat → Check
  | 0 => beyond
  | bound + 1 => step scope (descend scope beyond bound)

theorem check_eq_descend (scope : Scope) (bound : Nat) :
    check scope bound = descend scope (fun _ => []) bound := by
  induction bound with
  | zero => rfl
  | succ bound ih => simp only [check, descend, ih]

variable {scope : Scope} {f g : Frame}

-- -----------------------------------------------------------------------------
-- What every call preserves

/-- The schema is part of a document, and the trail holds tokens of references
in the documents, each once. -/
structure Admits (scope : Scope) (f : Frame) : Prop where
  schema : scope.Contains f.schema
  distinct : f.trail.tokens.Nodup
  known : ∀ token ∈ f.trail.tokens, token ∈ scope.tokens

theorem admits_start (value : Value) : Admits scope (scope.start value) :=
  ⟨scope.contains_root, List.nodup_nil, by simp [Scope.start, Trail.empty]⟩

theorem Admits.call (h : Admits scope f) (hcall : Calls scope f g) : Admits scope g := by
  cases hcall with
  | @reference node token target hschema href htrail hresolve =>
    have hcontains := h.schema
    rw [hschema] at hcontains
    refine ⟨Scope.contains_of_resolve hresolve, ?_, ?_⟩
    · exact List.nodup_cons.mpr ⟨by simpa [Trail.contains] using htrail, h.distinct⟩
    · intro other hmem
      rcases List.mem_cons.mp hmem with rfl | hmem
      · exact Scope.mem_tokens_of_reference hcontains href
      · exact h.known other hmem
  | keyword hschema _ hsub _ =>
    have hcontains := h.schema
    rw [hschema] at hcontains
    exact ⟨Scope.contains_of_within hsub.within.1 hcontains, h.distinct, h.known⟩

theorem Admits.length_le (h : Admits scope f) :
    f.trail.tokens.length ≤ scope.tokens.toFinset.card := by
  rw [← List.toFinset_card_of_nodup h.distinct]
  exact Finset.card_le_card fun token hmem =>
    List.mem_toFinset.mpr (h.known token (List.mem_toFinset.mp hmem))

-- -----------------------------------------------------------------------------
-- What every call uses up

/-- How deep the descent can still go from a frame: through the rest of the
schema, and through one document for each token that is not on the trail. -/
def remaining (scope : Scope) (f : Frame) : Nat :=
  (scope.tokens.toFinset.card - f.trail.tokens.length) * scope.height + f.schema.height

theorem remaining_pos (scope : Scope) (f : Frame) : 0 < remaining scope f :=
  Nat.lt_of_lt_of_le f.schema.height_pos (Nat.le_add_left ..)

theorem exists_eq_succ_of_remaining_le {bound : Nat} (h : remaining scope f ≤ bound) :
    ∃ rest, bound = rest + 1 :=
  Nat.exists_eq_add_one.mpr (Nat.lt_of_lt_of_le (remaining_pos scope f) h)

theorem remaining_le (h : scope.Contains f.schema) :
    remaining scope f ≤ (scope.tokens.toFinset.card + 1) * scope.height := by
  have hheight := Scope.height_le h
  have hunused : scope.tokens.toFinset.card - f.trail.tokens.length ≤ scope.tokens.toFinset.card :=
    Nat.sub_le ..
  calc remaining scope f ≤ scope.tokens.toFinset.card * scope.height + scope.height :=
        Nat.add_le_add (Nat.mul_le_mul_right _ hunused) hheight
    _ = (scope.tokens.toFinset.card + 1) * scope.height := (Nat.succ_mul ..).symm

theorem remaining_lt (h : Admits scope f) (hcall : Calls scope f g) :
    remaining scope g < remaining scope f := by
  have hadmits := (h.call hcall).length_le
  cases hcall with
  | @reference node token target _ _ _ hresolve =>
    -- The new token pays for the height of the target.
    have htarget := Scope.height_le (Scope.contains_of_resolve hresolve)
    have hpos := f.schema.height_pos
    simp only [Trail.extend, List.length_cons] at hadmits
    obtain ⟨unused, hunused⟩ := Nat.le.dest hadmits
    have hbefore : scope.tokens.toFinset.card - f.trail.tokens.length = unused + 1 := by omega
    have hafter : scope.tokens.toFinset.card - (f.trail.tokens.length + 1) = unused := by omega
    simp only [remaining, Trail.extend, List.length_cons, hbefore, hafter, Nat.succ_mul]
    omega
  | keyword hschema _ hsub _ =>
    simp only [remaining, hschema]
    exact Nat.add_lt_add_left hsub.within.2 _

theorem Nested.admits {outer : Frame} {depth : Nat} (h : Nested scope outer depth f)
    (houter : Admits scope outer) :
    Admits scope f ∧ depth + remaining scope f ≤ remaining scope outer := by
  induction h with
  | refl => exact ⟨houter, by omega⟩
  | call _ hcall ih =>
    have := remaining_lt ih.1 hcall
    exact ⟨ih.1.call hcall, by omega⟩

theorem descend_eq {beyond beyond' : Check} {bound bound' : Nat} (h : Admits scope f)
    (hbound : remaining scope f ≤ bound) (hbound' : remaining scope f ≤ bound') :
    descend scope beyond bound f = descend scope beyond' bound' f := by
  induction bound generalizing f bound' with
  | zero => exact absurd hbound (Nat.not_le_of_lt (remaining_pos scope f))
  | succ bound ih =>
    obtain ⟨bound', rfl⟩ := exists_eq_succ_of_remaining_le hbound'
    refine step_congr fun g hcall => ?_
    have hlt := remaining_lt h hcall
    exact ih (h.call hcall) (by omega) (by omega)

theorem check_eq_check {bound bound' : Nat} (h : Admits scope f)
    (hbound : remaining scope f ≤ bound) (hbound' : remaining scope f ≤ bound') :
    check scope bound f = check scope bound' f := by
  rw [check_eq_descend, check_eq_descend]
  exact descend_eq h hbound hbound'

-- -----------------------------------------------------------------------------
-- Two validations side by side

structure Beside (scope scope' : Scope) (f f' : Frame) : Prop where
  value : f.value = f'.value
  location : f.location = f'.location
  admits : Admits scope f
  admits' : Admits scope' f'

theorem beside_start {scope' : Scope} (value : Value) :
    Beside scope scope' (scope.start value) (scope'.start value) :=
  ⟨rfl, rfl, admits_start value, admits_start value⟩

theorem Beside.keyword {scope' : Scope} {f' : Frame} {node node' : Members}
    {schema schema' value : Value} {location : Location} (h : Beside scope scope' f f')
    (hschema : f.schema = .object node) (hnone : node.lookup "$ref" = none)
    (hsub : node.Subschema schema) (hschema' : f'.schema = .object node')
    (hnone' : node'.lookup "$ref" = none) (hsub' : node'.Subschema schema')
    (hoffers : f.Offers value location) :
    let g : Frame := ⟨value, location, schema, f.trail⟩
    let g' : Frame := ⟨value, location, schema', f'.trail⟩
    Calls scope f g ∧ Beside scope scope' g g' ∧
      remaining scope g < remaining scope f ∧ remaining scope' g' < remaining scope' f' := by
  intro g g'
  have hcall : Calls scope f g := .keyword hschema hnone hsub hoffers
  have hcall' : Calls scope' f' g' :=
    .keyword hschema' hnone' hsub' (hoffers.congr h.value h.location)
  exact ⟨hcall, ⟨rfl, rfl, h.admits.call hcall, h.admits'.call hcall'⟩,
    remaining_lt h.admits hcall, remaining_lt h.admits' hcall'⟩

theorem Beside.check_leaf {scope' : Scope} {f' : Frame} {bound bound' : Nat}
    (h : Beside scope scope' f f') (hleaf : f.schema.asMembers? = none)
    (hschema : f.schema = f'.schema) (hbound : remaining scope f ≤ bound)
    (hbound' : remaining scope' f' ≤ bound') : check scope bound f = check scope' bound' f' := by
  obtain ⟨bound, rfl⟩ := exists_eq_succ_of_remaining_le hbound
  obtain ⟨bound', rfl⟩ := exists_eq_succ_of_remaining_le hbound'
  refine step_leaf (fun node hnode => ?_) hschema h.location
  simp [hnode, Value.asMembers?] at hleaf

-- -----------------------------------------------------------------------------
-- The bound

theorem remaining_le_nestingBound (h : scope.Contains f.schema) :
    remaining scope f ≤ scope.nestingBound :=
  Nat.le_trans (remaining_le h)
    (Nat.mul_le_mul_right _ (Nat.succ_le_succ (List.toFinset_card_le _)))

theorem remaining_start_le_nestingBound (scope : Scope) (value : Value) :
    remaining scope (scope.start value) ≤ scope.nestingBound :=
  remaining_le_nestingBound scope.contains_root

/-- A validation ends within the bound. A frame is evaluated only where a chain
of calls leads to it, since a step reads the answers to its calls and no others.
On every such chain, discarded evaluations included, the trail holds distinct
tokens of references in the documents, every schema is part of a document, and
fewer than `(tokens + 1) * height` calls are open. The answer for frames beyond
that bound is never used. -/
theorem nesting_bounded (registry : Registry) (value root : Value) :
    let scope : Scope := ⟨root, registry⟩
    let bound := (scope.tokens.toFinset.card + 1) * scope.height
    (∀ (f : Frame) (check check' : Check), (∀ g, Calls scope f g → check g = check' g) →
      step scope check f = step scope check' f) ∧
    (∀ depth f, Nested scope (scope.start value) depth f →
      f.trail.tokens.Nodup ∧ (∀ token ∈ f.trail.tokens, token ∈ scope.tokens) ∧
      (∃ document ∈ scope.documents, f.schema.Within document) ∧ depth < bound) ∧
    ∀ (beyond : Check) (enough : Nat), bound ≤ enough →
      (registry.validate value root).violations =
        descend scope beyond enough (scope.start value) := by
  intro scope bound
  have hstart : remaining scope (scope.start value) ≤ bound := remaining_le scope.contains_root
  refine ⟨fun _ _ _ => step_congr, fun depth f hnested => ?_, fun beyond enough henough => ?_⟩
  · obtain ⟨hadmits, hdepth⟩ := hnested.admits (admits_start value)
    have hpos := remaining_pos scope f
    exact ⟨hadmits.distinct, hadmits.known, hadmits.schema, by omega⟩
  · show check scope scope.nestingBound (scope.start value) = _
    rw [check_eq_descend]
    exact descend_eq (admits_start value) (remaining_start_le_nestingBound scope value)
      (Nat.le_trans hstart henough)

theorem nesting_bounded_self_reference :
    let root : Value := .object [("$ref", .string "#")]
    let scope : Scope := ⟨root, .empty⟩
    let behind : Frame := ⟨.null, .root, root, ⟨["#"]⟩⟩
    Nested scope (scope.start .null) 1 behind ∧
      behind.trail.tokens.Nodup ∧ (∀ token ∈ behind.trail.tokens, token ∈ scope.tokens) ∧
      (∃ document ∈ scope.documents, behind.schema.Within document) ∧
      1 < (scope.tokens.toFinset.card + 1) * scope.height := by
  intro root scope behind
  have hnested : Nested scope (scope.start .null) 1 behind :=
    .call .refl (.reference rfl rfl rfl rfl)
  exact ⟨hnested, (nesting_bounded .empty .null root).2.1 1 behind hnested⟩

end TreeSchema.Validation
