import Mathlib.Logic.Relation
import TreeSchema.Proofs.Nesting

/-!
# Schemas reachable from the root

`SchemaStep` leads from a node to its subschemas and from a reference to its
target. Every frame of a validation stands at a reachable schema, and its trail
is a chain of references that leads there (`Nested.traced`). So where the steps
from a schema come to an end, no token is met again below it.
-/

namespace TreeSchema.Validation

inductive SchemaStep (scope : Scope) : Value → Value → Prop
  | subschema {node : Members} {schema : Value} : node.lookup "$ref" = none →
      node.Subschema schema → SchemaStep scope (.object node) schema
  | reference {node : Members} {token : String} {target : Value} :
      node.lookup "$ref" = some (.string token) →
      Reference.resolve token scope.root scope.registry = some target →
      SchemaStep scope (.object node) target

abbrev Reaches (scope : Scope) : Value → Value → Prop := Relation.ReflTransGen (SchemaStep scope)

variable {scope : Scope} {f g : Frame}

theorem Calls.schemaStep (h : Calls scope f g) : SchemaStep scope f.schema g.schema := by
  cases h with
  | reference hschema href _ hresolve =>
    rw [hschema]
    exact .reference href hresolve
  | keyword hschema href hsub _ =>
    rw [hschema]
    exact .subschema href hsub

/-- The schema is reachable, and so is, for each token of the trail, a reference
with that token whose target leads on to the schema. -/
structure Traced (scope : Scope) (f : Frame) : Prop where
  reached : Reaches scope scope.root f.schema
  followed : ∀ token ∈ f.trail.tokens, ∃ (node : Members) (target : Value),
    Reaches scope scope.root (.object node) ∧ node.lookup "$ref" = some (.string token) ∧
      Reference.resolve token scope.root scope.registry = some target ∧
      Reaches scope target f.schema

theorem traced_start (value : Value) : Traced scope (scope.start value) :=
  ⟨.refl, by simp [Scope.start, Trail.empty]⟩

theorem Traced.call (h : Traced scope f) (hcall : Calls scope f g) : Traced scope g := by
  have hstep := hcall.schemaStep
  have hfollowed : ∀ token ∈ f.trail.tokens, ∃ (node : Members) (target : Value),
      Reaches scope scope.root (.object node) ∧ node.lookup "$ref" = some (.string token) ∧
        Reference.resolve token scope.root scope.registry = some target ∧
        Reaches scope target g.schema := by
    intro token hmem
    obtain ⟨node, target, hnode, href, hresolve, htarget⟩ := h.followed token hmem
    exact ⟨node, target, hnode, href, hresolve, htarget.tail hstep⟩
  refine ⟨h.reached.tail hstep, ?_⟩
  cases hcall with
  | @reference node token target hschema href _ hresolve =>
    intro other hmem
    rcases List.mem_cons.mp hmem with rfl | hmem
    · exact ⟨node, target, hschema ▸ h.reached, href, hresolve, .refl⟩
    · exact hfollowed other hmem
  | keyword => exact hfollowed

theorem Nested.traced {depth : Nat} {value : Value}
    (h : Nested scope (scope.start value) depth f) : Traced scope f := by
  induction h with
  | refl => exact traced_start value
  | call _ hcall ih => exact ih.call hcall

-- -----------------------------------------------------------------------------
-- Schemas from which the steps come to an end

def Finite (scope : Scope) (schema : Value) : Prop :=
  Acc (fun inner outer => SchemaStep scope outer inner) schema

theorem Finite.of_reaches {schema inner : Value} (h : Finite scope schema)
    (hreaches : Reaches scope schema inner) : Finite scope inner := by
  induction hreaches with
  | refl => exact h
  | tail _ hstep ih => exact ih.inv hstep

theorem Finite.not_cyclic {schema : Value} (h : Finite scope schema) :
    ¬Relation.TransGen (SchemaStep scope) schema schema := by
  induction h with
  | intro schema _ ih =>
    intro hcycle
    -- The second schema of a cycle lies on a cycle as well.
    obtain ⟨next, hstep, hreaches⟩ := Relation.TransGen.head'_iff.mp hcycle
    exact ih next hstep (.tail' hreaches hstep)

theorem Traced.fresh {node : Members} {token : String} (h : Traced scope f)
    (hschema : f.schema = .object node) (href : node.lookup "$ref" = some (.string token))
    (hfinite : Finite scope f.schema) : token ∉ f.trail.tokens := by
  intro hmem
  obtain ⟨_, target, -, -, hresolve, htarget⟩ := h.followed token hmem
  have hstep : SchemaStep scope f.schema target := hschema ▸ .reference href hresolve
  exact hfinite.not_cyclic (.head' hstep htarget)

end TreeSchema.Validation
