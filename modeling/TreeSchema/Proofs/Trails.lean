import Mathlib.Data.List.Dedup
import TreeSchema.Proofs.Agreement

/-!
# What a validation reads of a trail

A trail is asked only for the tokens of references in the documents, so two
trails that hold the same ones among these are interchangeable. Each of these
once makes a short trail, so the bound of a validation is enough behind every
trail (`check_eq_of_contains`), and a schema from elsewhere needs its own height
on top of it (`check_eq_of_height`).
-/

namespace TreeSchema.Validation

variable {scope : Scope} {f : Frame} {bound bound' : Nat}

def Frame.behind (f : Frame) (trail : Trail) : Frame := { f with trail }

theorem Scope.shared (scope : Scope) : Shared scope scope (· ∈ scope.documents) :=
  ⟨fun _ _ => rfl, fun _ _ => Scope.contains_of_resolve⟩

theorem check_behind {trail : Trail} (h : scope.Contains f.schema)
    (htrail : ∀ token ∈ scope.tokens, f.trail.contains token = trail.contains token) :
    check scope bound f = check scope bound (f.behind trail) := by
  refine scope.shared.check_eq ⟨rfl, rfl, rfl, h, fun hdocument htoken => ?_⟩
  exact htrail _ (Scope.mem_tokens ⟨_, hdocument, .refl⟩ htoken)

-- -----------------------------------------------------------------------------
-- Bounds that are enough

/-- What the documents can ask of a trail, each token once. -/
def Scope.relevant (scope : Scope) (trail : Trail) : Trail :=
  ⟨(scope.tokens.filter trail.contains).dedup⟩

theorem Scope.contains_relevant {trail : Trail} {token : String} (h : token ∈ scope.tokens) :
    (scope.relevant trail).contains token = trail.contains token := by
  rw [Bool.eq_iff_iff]
  simp [Scope.relevant, Trail.contains, h]

theorem admits_relevant (h : scope.Contains f.schema) :
    Admits scope (f.behind (scope.relevant f.trail)) where
  schema := h
  distinct := List.nodup_dedup _
  known _ hmem := (List.mem_filter.mp (List.mem_dedup.mp hmem)).1

theorem check_eq_of_contains (h : scope.Contains f.schema) (hbound : scope.nestingBound ≤ bound)
    (hbound' : scope.nestingBound ≤ bound') : check scope bound f = check scope bound' f := by
  have htrail : ∀ token ∈ scope.tokens,
      f.trail.contains token = (scope.relevant f.trail).contains token :=
    fun token hmem => (Scope.contains_relevant hmem).symm
  have hremaining := remaining_le_nestingBound (f := f.behind (scope.relevant f.trail)) h
  rw [check_behind h htrail, check_behind h htrail]
  exact check_eq_check (admits_relevant h) (Nat.le_trans hremaining hbound)
    (Nat.le_trans hremaining hbound')

/-- Any schema at all needs at most its own height on top of that: below it there
are only its parts and those of documents. -/
theorem check_eq_of_height (hbound : f.schema.height + scope.nestingBound ≤ bound)
    (hbound' : f.schema.height + scope.nestingBound ≤ bound') :
    check scope bound f = check scope bound' f := by
  induction bound generalizing f bound' with
  | zero =>
    have := f.schema.height_pos
    omega
  | succ bound ih =>
    obtain ⟨rest, rfl⟩ : ∃ rest, bound' = rest + 1 := by
      have := f.schema.height_pos
      exact Nat.exists_eq_add_one.mpr (by omega)
    have hpos := f.schema.height_pos
    refine step_congr fun g hcall => ?_
    cases hcall with
    | reference _ _ _ hresolve =>
      exact check_eq_of_contains (Scope.contains_of_resolve hresolve) (by omega) (by omega)
    | @keyword node schema _ _ hschema _ hsub _ =>
      have hlt : schema.height < f.schema.height := hschema ▸ hsub.within.2
      exact ih (by simp only; omega) (by simp only; omega)

-- -----------------------------------------------------------------------------
-- Two trails

/-- The violations of a value against a part of a document are the same behind two
trails that hold the same among the tokens of references in the documents: order,
repetition and other tokens do not matter. This holds at every bound, and from the
bound of a validation on there is one answer. -/
theorem check_eq_of_trails (registry : Registry) (root : Value) {schema : Value}
    (hschema : ∃ document ∈ root :: registry.documents.map Prod.snd, schema.Within document)
    {trail trail' : Trail}
    (htrails : ∀ document ∈ root :: registry.documents.map Prod.snd,
      ∀ token ∈ document.stringsUnder "$ref", trail.contains token = trail'.contains token)
    (value : Value) (location : Location) :
    let scope : Scope := ⟨root, registry⟩
    (∀ bound, check scope bound ⟨value, location, schema, trail⟩ =
      check scope bound ⟨value, location, schema, trail'⟩) ∧
    ∀ extra, check scope (scope.nestingBound + extra) ⟨value, location, schema, trail⟩ =
      check scope scope.nestingBound ⟨value, location, schema, trail⟩ := by
  intro scope
  have hcontains : scope.Contains schema := hschema
  refine ⟨fun bound => ?_, fun extra => ?_⟩
  · refine check_behind (f := ⟨value, location, schema, trail⟩) hcontains fun token hmem => ?_
    obtain ⟨document, hdocument, htoken⟩ := List.mem_flatMap.mp (List.mem_eraseDups.mp hmem)
    exact htrails document hdocument token htoken
  · exact check_eq_of_contains hcontains (Nat.le_add_right ..) (Nat.le_refl _)

theorem check_eq_of_trails_repeated :
    let root : Value := .object [("properties", .object [("next", .object [("$ref", .string "#")])])]
    let scope : Scope := ⟨root, .empty⟩
    let value : Value := .object [("next", .null)]
    let trail : Trail := ⟨["#", "other", "#"]⟩
    let trail' : Trail := ⟨["#"]⟩
    (∃ document ∈ [root], root.Within document) ∧
      (∀ document ∈ [root], ∀ token ∈ document.stringsUnder "$ref",
        trail.contains token = trail'.contains token) ∧
      check scope scope.nestingBound ⟨value, .root, root, trail⟩ =
        check scope scope.nestingBound ⟨value, .root, root, trail'⟩ ∧
      (check scope scope.nestingBound ⟨value, .root, root, trail⟩).length = 1 ∧
      (check scope scope.nestingBound ⟨value, .root, root, .empty⟩).length = 0 := by
  intro root scope value trail trail'
  have hschema : ∃ document ∈ [root], root.Within document :=
    ⟨root, List.mem_singleton_self root, .refl⟩
  have htrails : ∀ document ∈ [root], ∀ token ∈ document.stringsUnder "$ref",
      trail.contains token = trail'.contains token := by decide
  obtain ⟨hequal, -⟩ := check_eq_of_trails .empty root hschema htrails value .root
  exact ⟨hschema, htrails, hequal scope.nestingBound, by decide, by decide⟩

end TreeSchema.Validation
