import TreeSchema.Proofs.Agreement

/-!
# Members that are not keywords

A member of the root under a name that is no keyword takes no part in a
validation, even where references lead back to the root, as long as none of them
leads into that member: `validate_eq_of_unread`.
-/

namespace TreeSchema

namespace Reference

/-- The token is a pointer into the root, and its walk starts with the key. -/
def Enters (token key : String) : Prop :=
  token.toList.head? = some '#' ∧ (pointerKeys? (split token).2).bind List.head? = some key

instance (token key : String) : Decidable (Enters token key) :=
  inferInstanceAs (Decidable (_ ∧ _))

end Reference

namespace Validation

variable {registry : Registry} {node node' : Members} {name : String}

theorem follow_indistinct (hname : name ∉ keywords)
    (hagree : ∀ keyword, keyword ≠ name → node.lookup keyword = node'.lookup keyword)
    {pointer : List Char}
    (hpointer : (Reference.pointerKeys? pointer).bind List.head? ≠ some name) :
    Option.Rel Indistinct (Reference.follow (.object node) pointer)
      (Reference.follow (.object node') pointer) := by
  unfold Reference.follow
  cases hkeys : Reference.pointerKeys? pointer with
  | none => exact .none
  | some keys =>
    cases keys with
    | nil =>
      refine .some (.node fun keyword hmem => hagree keyword ?_)
      rintro rfl
      exact hname hmem
    | cons key rest =>
      have hkey : key ≠ name := by simpa [hkeys] using hpointer
      refine indistinct_of_eq ?_
      simp only [Option.bind_some, Reference.walk, Value.member?, Value.asMembers?, hagree key hkey]

theorem corresponding_of_unread (hname : name ∉ keywords)
    (hagree : ∀ keyword, keyword ≠ name → node.lookup keyword = node'.lookup keyword)
    (hrefs : ∀ document ∈ (Scope.mk (.object node) registry).documents,
      ∀ token ∈ document.stringsUnder "$ref", ¬Reference.Enters token name) :
    Corresponding ⟨.object node, registry⟩ ⟨.object node', registry⟩
      (· ∈ (Scope.mk (.object node) registry).documents) where
  resolve {document token} hdocument hmem := by
    show Option.Rel Indistinct (Reference.resolve token (.object node) registry)
      (Reference.resolve token (.object node') registry)
    -- Only a pointer walks into the root, where the two scopes differ.
    by_cases hhead : token.toList.head? = some '#'
    · rw [Reference.resolve_of_head _ _ hhead, Reference.resolve_of_head _ _ hhead]
      refine follow_indistinct hname hagree fun hkey => ?_
      exact hrefs document hdocument token hmem ⟨hhead, hkey⟩
    · rw [Reference.resolve_of_head_ne _ hhead, Reference.resolve_of_head_ne _ hhead]
      exact indistinct_of_eq rfl
  target _ _ hresolve := Scope.contains_of_resolve hresolve

/-- Two roots that differ in a member only, whose name is no keyword, give every
value the same violations in the same order, unless a reference leads into that
member. The member may be missing from one of them, and any reference may lead
to the root as a whole. -/
theorem validate_eq_of_unread (registry : Registry) {node node' : Members} {name : String}
    (hname : name ∉ keywords)
    (hagree : ∀ keyword, keyword ≠ name → node.lookup keyword = node'.lookup keyword)
    (hrefs : ∀ document ∈ (Scope.mk (.object node) registry).documents,
      ∀ token ∈ document.stringsUnder "$ref", ¬Reference.Enters token name) (value : Value) :
    registry.validate value (.object node) = registry.validate value (.object node') := by
  have hroots : Indistinct (.object node) (.object node') := by
    refine .node fun keyword hmem => hagree keyword ?_
    rintro rfl
    exact hname hmem
  exact (corresponding_of_unread hname hagree hrefs).validate_eq List.mem_cons_self hroots value

theorem validate_eq_of_unread_title :
    let name : Value := .object [("type", .string "string")]
    let properties : Value := .object [("name", .object [("$ref", .string "#/definitions/name")]),
      ("next", .object [("$ref", .string "#")])]
    let node : Members :=
      [("definitions", .object [("name", name)]), ("properties", properties),
        ("title", .object [("$ref", .string "nowhere")])]
    let node' : Members := node.take 2
    let value : Value := .object [("name", .null), ("next", .object [("name", .null)])]
    "title" ∉ keywords ∧ (∀ keyword, keyword ≠ "title" → node.lookup keyword = node'.lookup keyword) ∧
      (∀ document ∈ (Scope.mk (.object node) .empty).documents,
        ∀ token ∈ document.stringsUnder "$ref", ¬Reference.Enters token "title") ∧
      Registry.empty.validate value (.object node) = Registry.empty.validate value (.object node') ∧
      (Registry.empty.validate value (.object node')).violations.length = 2 := by
  intro name properties node node' value
  have hname : "title" ∉ keywords := by decide
  have hagree : ∀ keyword, keyword ≠ "title" → node.lookup keyword = node'.lookup keyword := by
    intro keyword hkeyword
    simp [node, node', List.lookup_cons, beq_eq_false_iff_ne.mpr hkeyword]
  have hrefs : ∀ document ∈ (Scope.mk (.object node) .empty).documents,
      ∀ token ∈ document.stringsUnder "$ref", ¬Reference.Enters token "title" := by decide
  exact ⟨hname, hagree, hrefs, validate_eq_of_unread .empty hname hagree hrefs value, by decide⟩

end Validation

end TreeSchema
