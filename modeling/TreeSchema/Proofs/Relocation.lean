import TreeSchema.Proofs.Trails

/-!
# Where an evaluation stands

The location of a frame has no part in what is found: a frame that is moved below
a base location has the same violations, moved below it too (`check_under`). So an
evaluation anywhere is the one at the root with the text of its location in front
of every path.
-/

namespace TreeSchema

def Violation.under (v : Violation) (base : Location) : Violation :=
  { v with location := base.append v.location }

namespace Validation

def Frame.under (f : Frame) (base : Location) : Frame :=
  { f with location := base.append f.location }

def Moved (base : Location) (found found' : List Violation) : Prop :=
  found' = found.map (·.under base)

theorem cumulative_moved (base : Location) : Cumulative (Moved base) where
  nil := rfl
  append h h' := by
    simp only [Moved] at h h' ⊢
    rw [h, h', List.map_append]
  isEmpty h := by
    simp only [Moved] at h
    rw [h, List.isEmpty_map]

section Steps

variable {scope : Scope} {base : Location} {check check' : Check}

/-- The checks answer alike at a frame and at the same frame below the base. -/
def Follows (base : Location) (check check' : Check) : Prop :=
  ∀ f, Moved base (check f) (check' (f.under base))

theorem Follows.passes (h : Follows base check check') (f : Frame) :
    passes check f = passes check' (f.under base) :=
  (cumulative_moved base).isEmpty (h f)

theorem Follows.agree (h : Follows base check check') (f : Frame) :
    AgreeUpTo (Moved base) (fun _ => Eq) check check' f (f.under base) where
  toCumulative := cumulative_moved base
  value := rfl
  violation _ := rfl
  violationAt _ _ := rfl
  bool := by
    rintro _ _ rfl _
    rfl
  against := by
    rintro _ schema _ rfl -
    exact h (f.against schema)
  atKey {_ key schema _ child _} := by
    rintro - - - rfl
    exact h (f.atKey key child schema)
  atIndex {_ schema _ item _ position} := by
    rintro - - - rfl
    exact h (f.atIndex position item schema)
  verdict := by
    rintro _ schema _ rfl -
    exact h.passes (f.against schema)

theorem Follows.followReference (h : Follows base check check') (reference : Value) (f : Frame) :
    Moved base (followReference scope check reference f)
      (followReference scope check' reference (f.under base)) := by
  have hviolation (fault : Fault) :
      Moved base [f.violation fault] [(f.under base).violation fault] := rfl
  cases reference with
  | string token =>
    have htrail : (f.under base).trail = f.trail := rfl
    simp only [Validation.followReference, htrail]
    split
    · exact hviolation _
    · cases Reference.resolve token scope.root scope.registry with
      | none => exact hviolation _
      | some target => exact h { f with schema := target, trail := f.trail.extend token }
  | _ => exact hviolation _

theorem Follows.step (h : Follows base check check') :
    Follows base (step scope check) (step scope check') := by
  intro f
  have hschema : (f.under base).schema = f.schema := rfl
  simp only [Validation.step, hschema]
  split
  · exact (cumulative_moved base).nil
  · rfl
  · split
    · exact h.followReference _ f
    · exact checkKeywords_congrUpTo (h.agree f) (Members.related_refl fun _ _ => rfl)
  · rfl

end Steps

theorem check_under (scope : Scope) (bound : Nat) (f : Frame) (base : Location) :
    check scope bound (f.under base) = (check scope bound f).map (·.under base) := by
  have hfollows : Follows base (check scope bound) (check scope bound) := by
    induction bound with
    | zero => exact fun _ => rfl
    | succ bound ih => exact ih.step
  exact hfollows f

/-- What is found for a value at a location is what is found for it at the root,
in the same order, with the same kinds and messages and with the text of the
location in front of every path; so whether it passes does not depend on the
location. This holds of any schema behind any trail, at every bound, and from some
bound on there is one answer at each location. -/
theorem check_eq_check_root (scope : Scope) (value schema : Value) (trail : Trail) :
    (∀ bound location,
      (check scope bound ⟨value, location, schema, trail⟩).map
          (fun v => (v.location.text, v.kind, v.message)) =
        (check scope bound ⟨value, .root, schema, trail⟩).map
          (fun v => (location.text ++ v.location.text, v.kind, v.message)) ∧
      passes (check scope bound) ⟨value, location, schema, trail⟩ =
        passes (check scope bound) ⟨value, .root, schema, trail⟩) ∧
    ∃ enough, ∀ extra location,
      check scope (enough + extra) ⟨value, location, schema, trail⟩ =
        check scope enough ⟨value, location, schema, trail⟩ := by
  refine ⟨fun bound location => ?_, schema.height + scope.nestingBound, fun extra location => ?_⟩
  · have hunder : check scope bound ⟨value, location, schema, trail⟩ =
        (check scope bound ⟨value, .root, schema, trail⟩).map (·.under location) :=
      check_under scope bound ⟨value, .root, schema, trail⟩ location
    constructor
    · rw [hunder, List.map_map]
      refine List.map_congr_left fun v _ => ?_
      simp only [Function.comp, Violation.under, Location.text_append]
      rfl
    · simp only [passes, hunder, List.isEmpty_map]
  · exact check_eq_of_height (Nat.le_add_right ..) (Nat.le_refl _)

end Validation

end TreeSchema
