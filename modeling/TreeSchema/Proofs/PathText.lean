import TreeSchema.Proofs.Placement
import TreeSchema.Proofs.Pointer
import TreeSchema.Proofs.WellFormed

/-!
# What the text of a location tells

A location is written with its keys as they are, so its text may be cut into steps
in several ways. Two positions of one value have the same text only where they part
at an object by two keys of which one goes on where the other ends
(`text_eq_text_iff`); where no key continues another by a `.` or a `[`, the text
tells the position.
-/

namespace TreeSchema

-- -----------------------------------------------------------------------------
-- Texts from the front

namespace Location

variable {name name' : String} {position position' : Nat} {below below' : Location}

theorem toList_text_key (name : String) (below : Location) :
    ((key root name).append below).text.toList = '.' :: (name.toList ++ below.text.toList) := by
  simp [text_append, text]

theorem toList_text_index (position : Nat) (below : Location) :
    ((index root position).append below).text.toList =
      '[' :: ((toString position).toList ++ ']' :: below.text.toList) := by
  simp [text_append, text]

theorem index_eq_of_text (h : (toString position).toList ++ ']' :: below.text.toList =
    (toString position').toList ++ ']' :: below'.text.toList) :
    position = position' ∧ below.text = below'.text := by
  simp only [Nat.toString_eq_ofList_toDigits, String.toList_ofList] at h
  have hdigits (n : Nat) : ']' ∉ Nat.toDigits 10 n := fun hmem =>
    absurd (Nat.isDigit_of_mem_toDigits (by decide) (by decide) hmem) (by decide)
  have hsplit := congrArg (Text.split ']') h
  rw [Text.split_append (hdigits _), Text.split_append (hdigits _)] at hsplit
  have hindex := (List.cons.inj hsplit).1
  refine ⟨?_, ?_⟩
  · rw [← Nat.ofDigitChars_ten_toDigits (n := position), hindex, Nat.ofDigitChars_ten_toDigits]
  · rw [hindex] at h
    exact String.toList_inj.mp (List.cons.inj (List.append_cancel_left h)).2

end Location

-- -----------------------------------------------------------------------------
-- Positions from the front

namespace Value

/-- The first step of the location leads from a value into one of its parts, and
the others on from there. -/
inductive Leading : Value → Location → Value → Prop
  | here {value : Value} : Leading value .root value
  | firstKey {members : Members} {name : String} {child part : Value} {below : Location} :
      (name, child) ∈ members → Leading child below part →
      Leading (.object members) ((Location.key .root name).append below) part
  | firstIndex {items : List Value} {position : Nat} {item part : Value} {below : Location} :
      items[position]? = some item → Leading item below part →
      Leading (.array items) ((Location.index .root position).append below) part

variable {whole part : Value} {location : Location}

theorem Leading.key {members : Members} {name : String} {child : Value}
    (h : whole.Leading location part) (hpart : part = .object members)
    (hmem : (name, child) ∈ members) : whole.Leading (.key location name) child := by
  induction h with
  | here => exact hpart ▸ .firstKey hmem .here
  | firstKey hfirst _ ih => exact .firstKey hfirst (ih hpart)
  | firstIndex hfirst _ ih => exact .firstIndex hfirst (ih hpart)

theorem Leading.index {items : List Value} {position : Nat} {item : Value}
    (h : whole.Leading location part) (hpart : part = .array items)
    (hitem : items[position]? = some item) : whole.Leading (.index location position) item := by
  induction h with
  | here => exact hpart ▸ .firstIndex hitem .here
  | firstKey hfirst _ ih => exact .firstKey hfirst (ih hpart)
  | firstIndex hfirst _ ih => exact .firstIndex hfirst (ih hpart)

theorem leading_iff : whole.Leading location part ↔ whole.At location part := by
  constructor
  · intro h
    induction h with
    | here => exact .root
    | firstKey hfirst _ ih => exact .trans (.key .root hfirst) ih
    | firstIndex hfirst _ ih => exact .trans (.index .root hfirst) ih
  · intro h
    induction h with
    | root => exact .here
    | key _ hmem ih => exact ih.key rfl hmem
    | index _ hitem ih => exact ih.index rfl hitem

end Value

-- -----------------------------------------------------------------------------
-- Positions with one text

/-- Two positions part at an object by a key and a longer key that goes on from it.
What the longer key adds is the text of the steps that the other position takes
instead. -/
inductive Clash (whole : Value) : Location → Location → Prop
  | intro {base below below' : Location} {members : Members} {name added : String}
      {child child' part part' : Value} :
      whole.At base (.object members) → (name, child) ∈ members → child.At below part →
      (name ++ added, child') ∈ members → child'.At below' part' →
      added ≠ "" → below.text = added ++ below'.text →
      Clash whole ((Location.key base name).append below)
        ((Location.key base (name ++ added)).append below')

def Value.ContinuesKey (whole : Value) : Prop :=
  ∃ members, (Value.object members).Within whole ∧ ∃ name child added child',
    (name, child) ∈ members ∧ (name ++ added, child') ∈ members ∧
      (added.toList.head? = some '.' ∨ added.toList.head? = some '[')

namespace Clash

variable {whole child : Value} {p q base : Location}

theorem under (h : Clash child p q) (hbase : whole.At base child) :
    Clash whole (base.append p) (base.append q) := by
  cases h with
  | intro hobject hname hbelow hname' hbelow' hne htext =>
    rw [← Location.append_assoc, ← Location.append_assoc]
    exact .intro (hbase.trans hobject) hname hbelow hname' hbelow' hne htext

theorem eq_or_under (hbase : whole.At base child)
    (h : p = q ∨ Clash child p q ∨ Clash child q p) :
    base.append p = base.append q ∨ Clash whole (base.append p) (base.append q) ∨
      Clash whole (base.append q) (base.append p) :=
  h.imp (congrArg base.append) (Or.imp (·.under hbase) (·.under hbase))

theorem text_eq (h : Clash whole p q) : p.text = q.text := by
  cases h with
  | intro _ _ _ _ _ _ htext =>
    simp only [Location.text_append, Location.text, htext, String.append_assoc]

theorem continuesKey (h : Clash whole p q) : whole.ContinuesKey := by
  cases h with
  | @intro base below below' members name added child child' part part' hobject hname hbelow hname'
      _ hne htext =>
    refine ⟨members, hobject.within, name, child, added, child', hname, hname', ?_⟩
    -- The text that the longer key adds starts with the first step below the shorter one.
    have hlist : below.text.toList = added.toList ++ below'.text.toList := by
      rw [htext, String.toList_append]
    obtain ⟨c, rest, hadded⟩ :=
      List.exists_cons_of_ne_nil fun hnil => hne (String.toList_inj.mp hnil)
    rw [hadded, List.cons_append] at hlist
    rw [hadded, List.head?_cons]
    cases Value.leading_iff.mpr hbelow with
    | here => exact nomatch hlist
    | firstKey =>
      rw [Location.toList_text_key] at hlist
      exact .inl (congrArg some (List.cons.inj hlist).1.symm)
    | firstIndex =>
      rw [Location.toList_text_index] at hlist
      exact .inr (congrArg some (List.cons.inj hlist).1.symm)

end Clash

-- -----------------------------------------------------------------------------
-- Positions told apart

namespace Value

variable {whole part part' : Value} {p q : Location}

theorem WellFormed.part_unique (hwhole : whole.WellFormed) (hp : whole.At p part)
    (hq : whole.At p part') : part = part' := by
  induction hp generalizing part' with
  | root =>
    cases hq
    rfl
  | key hobject hmem ih =>
    cases hq with
    | key hobject' hmem' =>
      obtain rfl := Value.object.inj (ih hobject')
      exact (hwhole.objects _ hobject.within).value_unique hmem hmem'
  | index harray hitem ih =>
    cases hq with
    | index harray' hitem' =>
      obtain rfl := Value.array.inj (ih harray')
      exact Option.some.inj (hitem.symm.trans hitem')

theorem clash_of_longer {members : Members} {name name' : String} {child child' : Value}
    {below below' : Location} {added : List Char} (hname : (name, child) ∈ members)
    (hbelow : child.Leading below part) (hname' : (name', child') ∈ members)
    (hbelow' : child'.Leading below' part') (hne : name ≠ name')
    (hlonger : name'.toList = name.toList ++ added)
    (htext : below.text.toList = added ++ below'.text.toList) :
    Clash (object members) ((Location.key .root name).append below)
      ((Location.key .root name').append below') := by
  obtain rfl : name' = name ++ String.ofList added := String.toList_inj.mp (by simp [hlonger])
  refine .intro .root hname (leading_iff.mp hbelow) hname' (leading_iff.mp hbelow') ?_ ?_
  · intro hempty
    exact hne (by rw [hempty, String.append_empty])
  · exact String.toList_inj.mp (by simp [htext])

theorem Leading.eq_or_clash (hwhole : whole.WellFormed) (hp : whole.Leading p part)
    (hq : whole.Leading q part') (htext : p.text = q.text) :
    p = q ∨ Clash whole p q ∨ Clash whole q p := by
  have hlist := congrArg String.toList htext
  induction hp generalizing q part' with
  | here =>
    cases hq with
    | here => exact .inl rfl
    | firstKey =>
      rw [Location.toList_text_key] at hlist
      exact nomatch hlist
    | firstIndex =>
      rw [Location.toList_text_index] at hlist
      exact nomatch hlist
  | @firstKey members name child part below hname hbelow ih =>
    rw [Location.toList_text_key] at hlist
    cases hq with
    | here => exact nomatch hlist
    | @firstKey _ name' child' _ below' hname' hbelow' =>
      rw [Location.toList_text_key] at hlist
      have hrest := (List.cons.inj hlist).2
      by_cases hsame : name = name'
      · subst hsame
        obtain rfl : child = child' := (hwhole.objects members .refl).value_unique hname hname'
        have hbelows := List.append_cancel_left hrest
        exact Clash.eq_or_under (.key .root hname)
          (ih (hwhole.member hname) hbelow' (String.toList_inj.mp hbelows) hbelows)
      · rcases List.append_eq_append_iff.mp hrest with ⟨added, hlonger, hbelows⟩ | ⟨added, hlonger, hbelows⟩
        · exact .inr (.inl (clash_of_longer hname hbelow hname' hbelow' hsame hlonger hbelows))
        · exact .inr (.inr (clash_of_longer hname' hbelow' hname hbelow (Ne.symm hsame) hlonger hbelows))
  | @firstIndex items position item part below hitem hbelow ih =>
    rw [Location.toList_text_index] at hlist
    cases hq with
    | here => exact nomatch hlist
    | @firstIndex _ position' item' _ below' hitem' hbelow' =>
      rw [Location.toList_text_index] at hlist
      obtain ⟨rfl, hbelows⟩ := Location.index_eq_of_text (List.cons.inj hlist).2
      obtain rfl : item = item' := Option.some.inj (hitem.symm.trans hitem')
      exact Clash.eq_or_under (.index .root hitem)
        (ih (hwhole.item (List.mem_of_getElem? hitem)) hbelow' hbelows (congrArg String.toList hbelows))

end Value

namespace Location

/-- Two positions of a value have the same text only if they are the same or part
at an object by a key and a longer one, with the text of the steps below the
shorter key for what the longer one adds, and then they have. Where no object has
a key that continues another one by `.` or `[`, a text tells the position, and so
the part that stands there. -/
theorem text_eq_text_iff {whole part part' : Value} (hwhole : whole.WellFormed) {p q : Location}
    (hp : whole.At p part) (hq : whole.At q part') :
    (p.text = q.text ↔ p = q ∨ Clash whole p q ∨ Clash whole q p) ∧
      (¬whole.ContinuesKey → p.text = q.text → p = q ∧ part = part') := by
  have hcases (htext : p.text = q.text) : p = q ∨ Clash whole p q ∨ Clash whole q p :=
    (Value.leading_iff.mpr hp).eq_or_clash hwhole (Value.leading_iff.mpr hq) htext
  refine ⟨⟨hcases, ?_⟩, fun hfree htext => ?_⟩
  · rintro (rfl | hclash | hclash)
    · rfl
    · exact hclash.text_eq
    · exact hclash.text_eq.symm
  · obtain rfl | hclash | hclash := hcases htext
    · exact ⟨rfl, hwhole.part_unique hp hq⟩
    · exact absurd hclash.continuesKey hfree
    · exact absurd hclash.continuesKey hfree

theorem text_eq_text_iff_plain :
    let whole : Value := .object [("a", .array [.null]), ("ab", .null)]
    let p : Location := .index (.key .root "a") 0
    let q : Location := .key .root "ab"
    whole.WellFormed ∧ whole.At p .null ∧ whole.At q .null ∧ ¬whole.ContinuesKey ∧
      p.text ≠ q.text := by
  intro whole p q
  have hnull : Value.null.WellFormed := .ofLeaf rfl rfl rfl
  have hitems : (Value.array [.null]).WellFormed := .ofItems (by simpa using hnull)
  have hwhole : whole.WellFormed := by
    refine .ofMembers (List.pairwise_pair.mpr (by decide)) fun key child hmem => ?_
    rcases List.mem_pair.mp hmem with heq | heq
    · exact (Prod.mk.inj heq).2 ▸ hitems
    · exact (Prod.mk.inj heq).2 ▸ hnull
  have hp : whole.At p .null := .index (.key .root (.head _)) rfl
  have hq : whole.At q .null := .key .root (.tail _ (.head _))
  have hobject {members : Members} (h : (Value.object members).Within
      (.object [("a", .array [.null]), ("ab", .null)])) :
      members = [("a", .array [.null]), ("ab", .null)] := by
    cases h with
    | refl => rfl
    | member hmem hwithin =>
      rcases List.mem_pair.mp hmem with heq | heq
      · obtain ⟨-, rfl⟩ := Prod.mk.inj heq
        cases hwithin with
        | item hitem hwithin =>
          obtain rfl := List.mem_singleton.mp hitem
          cases hwithin
      · obtain ⟨-, rfl⟩ := Prod.mk.inj heq
        cases hwithin
  have hfree : ¬whole.ContinuesKey := by
    rintro ⟨members, hwithin, name, child, added, child', hname, hname', hadded⟩
    obtain rfl := hobject hwithin
    have hkey := (List.mem_pair.mp hname).imp (congrArg Prod.fst) (congrArg Prod.fst)
    have hlonger := (List.mem_pair.mp hname').imp (congrArg (·.1.toList)) (congrArg (·.1.toList))
    rcases hkey with rfl | rfl <;> rcases hlonger with hlonger | hlonger <;> simp_all
  refine ⟨hwhole, hp, hq, hfree, fun htext => ?_⟩
  exact absurd ((text_eq_text_iff hwhole hp hq).2 hfree htext).1 (by decide)

/-- A key with a point in it has the text of two steps, and the violations at both
positions have one path. -/
theorem positions_with_one_text :
    let value : Value := .object [("a", .object [("b", .null)]), ("a.b", .null)]
    let schema : Value := .object [("properties", .object
      [("a", .object [("properties", .object [("b", .bool false)])]), ("a.b", .bool false)])]
    let p : Location := .key (.key .root "a") "b"
    let q : Location := .key .root "a.b"
    value.At p .null ∧ value.At q .null ∧ p ≠ q ∧ p.text = q.text ∧
      (Registry.empty.validate value schema).violations.map (·.location) = [p, q] := by
  intro value schema p q
  have hp : value.At p .null := .key (.key .root (.head _)) (.head _)
  have hq : value.At q .null := .key .root (.tail _ (.head _))
  exact ⟨hp, hq, by decide, by decide, by decide⟩

end Location

end TreeSchema
