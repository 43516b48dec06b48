import Mathlib.Data.Set.Card
import TreeSchema.Proofs.Equality
import TreeSchema.Proofs.Findings

/-!
# Repeated items

`uniqueItems` reports each item that equals an earlier one, once and with the
first of those: `repetitions_exact`. So it reports nothing exactly when no two
items are equal, in whatever order they stand, and among items without doubles
it counts those beyond the distinct ones.
-/

namespace TreeSchema

def Location.depth : Location → Nat
  | .root => 0
  | .key parent _ => parent.depth + 1
  | .index parent _ => parent.depth + 1

namespace Validation

-- -----------------------------------------------------------------------------
-- Where the violations of a frame stand

section Depth

variable {scope : Scope} {bound : Nat} {f g : Frame} {v : Violation}

theorem Calls.depth_le (h : Calls scope f g) : f.location.depth ≤ g.location.depth := by
  cases h with
  | reference => exact Nat.le_refl _
  | keyword _ _ _ hoffers => cases hoffers <;> simp [Location.depth]

theorem depth_le_of_mem_check (h : v ∈ check scope bound f) :
    f.location.depth ≤ v.location.depth := by
  induction bound generalizing f with
  | zero => exact absurd h List.not_mem_nil
  | succ bound ih =>
    cases cause_of_mem_step h with
    | call hcall hmem => exact Nat.le_trans hcall.depth_le (ih hmem)
    | missing => exact Nat.le_succ _
    | notAllowed => exact Nat.le_succ _
    | _ => exact Nat.le_refl _

theorem location_ne_of_mem_checkItems {items : List Value} {node : Members}
    (h : v ∈ checkItems (check scope bound) items node f) : v.location ≠ f.location := by
  have hbelow {position : Nat} {item schema : Value}
      (h : v ∈ check scope bound (f.atIndex position item schema)) : v.location ≠ f.location := by
    intro heq
    have := depth_le_of_mem_check h
    simp [Frame.atIndex, Location.depth, heq] at this
  obtain ⟨held, -, h⟩ := mem_elim.mp h
  split at h
  · obtain ⟨_, -, h⟩ := List.mem_flatMap.mp h
    exact hbelow h
  · obtain ⟨_, -, h⟩ := List.mem_flatMap.mp h
    exact hbelow h

end Depth

-- -----------------------------------------------------------------------------
-- Repetitions

/-- The equal items that a fault names, the earlier one first. -/
def repetition? : Fault → Option (Nat × Nat)
  | .repeatedItem first later => some (first, later)
  | _ => none

def repetitions (scope : Scope) (bound : Nat) (node : Members) (f : Frame) (items : List Value) :
    List (Nat × Nat) :=
  (checkArray (check scope bound) items node f).filterMap fun v =>
    if v.location = f.location then repetition? v.fault else none

section Items

variable {items : List Value} {first later : Nat}

theorem repetitions_eq {scope : Scope} {bound : Nat} {node : Members} {f : Frame}
    (hunique : node.bool? "uniqueItems" = some true) :
    repetitions scope bound node f items = (repetitionFaults items).filterMap repetition? := by
  have hitems : (checkItems (check scope bound) items node f).filterMap (fun v =>
      if v.location = f.location then repetition? v.fault else none) = [] := by
    refine List.filterMap_eq_nil_iff.mpr fun v hmem => ?_
    simp [location_ne_of_mem_checkItems hmem]
  have hcount : (itemCountFaults items node).filterMap repetition? = [] := by
    refine List.filterMap_eq_nil_iff.mpr fun fault hmem => ?_
    rcases List.mem_append.mp hmem with hmem | hmem <;>
      · obtain ⟨limit, -, hmem⟩ := mem_elim.mp hmem
        obtain ⟨-, rfl⟩ := mem_when.mp hmem
        rfl
  simp [repetitions, checkArray, List.filterMap_append, hitems, Frame.violations, Frame.violation,
    List.filterMap_map, Function.comp_def, hcount, uniquenessFaults, hunique]

def SameAt (items : List Value) (i j : Nat) : Prop :=
  ∃ x y, items[i]? = some x ∧ items[j]? = some y ∧ x.equal y = true

/-- The item at `later` has an equal one before it, and `first` is the first of
those. -/
structure Repeats (items : List Value) (first later : Nat) : Prop where
  before : first < later
  same : SameAt items first later
  least : ∀ earlier < first, ¬SameAt items earlier later

theorem Repeats.unique {other : Nat} (h : Repeats items first later)
    (h' : Repeats items other later) : first = other := by
  rcases Nat.lt_trichotomy first other with hlt | heq | hlt
  · exact absurd h.same (h'.least _ hlt)
  · exact heq
  · exact absurd h'.same (h.least _ hlt)

theorem exists_repeats {earlier : Nat} (hlt : earlier < later) (h : SameAt items earlier later) :
    ∃ first, Repeats items first later := by
  classical
  have hexists : ∃ i, SameAt items i later := ⟨earlier, h⟩
  refine ⟨Nat.find hexists, ?_, Nat.find_spec hexists, fun i hi => Nat.find_min hexists hi⟩
  exact Nat.lt_of_le_of_lt (Nat.find_min' hexists h) hlt

theorem findIdx?_take_eq_some {item : Value} (hitem : items[later]? = some item) :
    ((items.take later).findIdx? fun earlier => earlier.equal item) = some first ↔
      Repeats items first later := by
  obtain ⟨hlater, rfl⟩ := List.getElem?_eq_some_iff.mp hitem
  have hsame (i : Nat) (hi : i < later) :
      SameAt items i later ↔ (items[i].equal items[later]) = true := by
    simp [SameAt, hlater, Nat.lt_trans hi hlater]
  simp only [List.findIdx?_eq_some_iff_getElem, List.length_take, List.getElem_take,
    Nat.lt_min]
  constructor
  · rintro ⟨⟨hlt, _⟩, hequal, hleast⟩
    refine ⟨hlt, (hsame first hlt).mpr hequal, fun i hi => ?_⟩
    rw [hsame i (Nat.lt_trans hi hlt)]
    exact hleast i hi
  · rintro ⟨hlt, hequal, hleast⟩
    refine ⟨⟨hlt, Nat.lt_trans hlt hlater⟩, (hsame first hlt).mp hequal, fun i hi => ?_⟩
    rw [← hsame i (Nat.lt_trans hi hlt)]
    exact hleast i hi

theorem mem_repetitionFaults {fault : Fault} : fault ∈ repetitionFaults items ↔
    ∃ first later, fault = .repeatedItem first later ∧ Repeats items first later := by
  simp only [repetitionFaults, List.mem_filterMap, Prod.exists, List.mem_zipIdx_iff_getElem?,
    Option.map_eq_some_iff]
  constructor
  · rintro ⟨item, later, hitem, first, hfirst, rfl⟩
    exact ⟨first, later, rfl, (findIdx?_take_eq_some hitem).mp hfirst⟩
  · rintro ⟨first, later, rfl, h⟩
    obtain ⟨_, item, -, hitem, -⟩ := h.same
    exact ⟨item, later, hitem, first, (findIdx?_take_eq_some hitem).mpr h, rfl⟩

theorem mem_repetitions {pair : Nat × Nat} :
    pair ∈ (repetitionFaults items).filterMap repetition? ↔ Repeats items pair.1 pair.2 := by
  rw [List.mem_filterMap]
  constructor
  · rintro ⟨fault, hmem, hpair⟩
    obtain ⟨first, later, rfl, h⟩ := mem_repetitionFaults.mp hmem
    obtain rfl := Option.some.inj hpair
    exact h
  · exact fun h => ⟨_, mem_repetitionFaults.mpr ⟨_, _, rfl, h⟩, rfl⟩

theorem repetitionFaults_pairwise :
    ((repetitionFaults items).filterMap repetition?).Pairwise (·.2 < ·.2) := by
  have hpositions : items.zipIdx.Pairwise (·.2 < ·.2) := by
    rw [← List.pairwise_map (f := Prod.snd) (R := (· < ·)), List.zipIdx_map_snd]
    exact List.pairwise_lt_range'
  rw [repetitionFaults, List.filterMap_filterMap, List.pairwise_filterMap]
  refine hpositions.imp ?_
  rintro ⟨x, i⟩ ⟨y, j⟩ hlt pair hpair pair' hpair'
  simp only [Option.bind_eq_some_iff, Option.map_eq_some_iff] at hpair hpair'
  obtain ⟨_, ⟨_, -, rfl⟩, hpair⟩ := hpair
  obtain ⟨_, ⟨_, -, rfl⟩, hpair'⟩ := hpair'
  cases hpair
  cases hpair'
  exact hlt

theorem filter_eq_singleton {pairs : List (Nat × Nat)} (h : pairs.Pairwise (·.2 < ·.2))
    (hmem : (first, later) ∈ pairs) : pairs.filter (·.2 = later) = [(first, later)] := by
  induction pairs with
  | nil => exact absurd hmem List.not_mem_nil
  | cons pair rest ih =>
    obtain ⟨hhead, htail⟩ := List.pairwise_cons.mp h
    rcases List.mem_cons.mp hmem with rfl | hmem
    · have hrest : rest.filter (·.2 = later) = [] := by
        refine List.filter_eq_nil_iff.mpr fun other hother => ?_
        simpa using (hhead other hother).ne'
      simp [hrest]
    · have hne : pair.2 ≠ later := (hhead _ hmem).ne
      simp [hne, ih htail hmem]

-- -----------------------------------------------------------------------------
-- How many

theorem repetitionFaults_append_singleton (items : List Value) (item : Value) :
    repetitionFaults (items ++ [item]) = repetitionFaults items ++
      ((items.findIdx? fun earlier => earlier.equal item).map
        (.repeatedItem · items.length)).toList := by
  simp only [repetitionFaults, List.zipIdx_append, List.filterMap_append]
  congr 1
  · refine List.filterMap_congr ?_
    rintro ⟨later, position⟩ hmem
    have hlt : position < items.length :=
      (List.getElem?_eq_some_iff.mp (List.mem_zipIdx_iff_getElem?.mp hmem)).1
    simp [List.take_append_of_le_length (Nat.le_of_lt hlt)]
  · cases hfirst : items.findIdx? fun earlier => earlier.equal item <;>
      simp [hfirst, -List.findIdx?_take]

theorem length_repetitions (hitems : ∀ item ∈ items, item.WellFormed)
    (hfree : ∀ item ∈ items, item.DoubleFree) :
    ((repetitionFaults items).filterMap repetition?).length + {item | item ∈ items}.ncard =
      items.length := by
  induction items using List.reverseRecOn with
  | nil => simp [repetitionFaults]
  | append_singleton items item ih =>
    rw [List.forall_mem_append, List.forall_mem_singleton] at hitems hfree
    have hset : {other | other ∈ items ++ [item]} = insert item {other | other ∈ items} := by
      ext other
      simp [or_comm]
    have hfinite : {other | other ∈ items}.Finite := items.finite_toSet
    have hih := ih hitems.1 hfree.1
    rw [hset, repetitionFaults_append_singleton]
    by_cases hmem : item ∈ items
    · have hfound : (items.findIdx? fun earlier => earlier.equal item).isSome := by
        rw [List.findIdx?_isSome, List.any_eq_true]
        exact ⟨item, hmem, Value.equal_self hitems.2⟩
      obtain ⟨first, hfirst⟩ := Option.isSome_iff_exists.mp hfound
      simp [hfirst, repetition?, Set.insert_eq_of_mem (show item ∈ {other | other ∈ items} from hmem)]
      omega
    · have hnone : (items.findIdx? fun earlier => earlier.equal item) = none := by
        refine List.findIdx?_eq_none_iff.mpr fun earlier hearlier => Bool.eq_false_iff.mpr ?_
        intro hequal
        obtain rfl := Value.eq_of_equal (hitems.1 _ hearlier) hitems.2 (hfree.1 _ hearlier) hfree.2 hequal
        exact hmem hearlier
      rw [Set.ncard_insert_of_notMem (s := {other | other ∈ items}) hmem hfinite]
      simp [hnone]
      omega

-- -----------------------------------------------------------------------------
-- None at all

theorem repetitions_eq_nil_iff : (repetitionFaults items).filterMap repetition? = [] ↔
    repetitionFaults items = [] := by
  rw [List.filterMap_eq_nil_iff, List.eq_nil_iff_forall_not_mem]
  refine forall₂_congr fun fault hmem => iff_false_intro ?_
  obtain ⟨first, later, rfl, -⟩ := mem_repetitionFaults.mp hmem
  simp [repetition?]

theorem pairwise_iff_of_wellFormed (hitems : ∀ item ∈ items, item.WellFormed) :
    (items.Pairwise fun earlier later => earlier.equal later = false) ↔
      ∀ i j, i ≠ j → ¬SameAt items i j := by
  constructor
  · rintro h i j hne ⟨x, y, hx, hy, hequal⟩
    obtain ⟨hi, rfl⟩ := List.getElem?_eq_some_iff.mp hx
    obtain ⟨hj, rfl⟩ := List.getElem?_eq_some_iff.mp hy
    rcases Nat.lt_or_gt_of_ne hne with hlt | hlt
    · simp [List.pairwise_iff_getElem.mp h i j hi hj hlt] at hequal
    · rw [Value.equal_comm (hitems _ (List.getElem_mem hi)) (hitems _ (List.getElem_mem hj)),
        List.pairwise_iff_getElem.mp h j i hj hi hlt] at hequal
      cases hequal
  · intro h
    refine List.pairwise_iff_getElem.mpr fun i j hi hj hlt => Bool.eq_false_iff.mpr fun hequal => ?_
    exact h i j hlt.ne ⟨_, _, List.getElem?_eq_getElem hi, List.getElem?_eq_getElem hj, hequal⟩

theorem pairwise_of_perm {items' : List Value} (hitems : ∀ item ∈ items, item.WellFormed)
    (hperm : items.Perm items')
    (h : items.Pairwise fun earlier later => earlier.equal later = false) :
    items'.Pairwise fun earlier later => earlier.equal later = false := by
  have hboth : items.Pairwise fun x y => x.equal y = false ∧ y.equal x = false := by
    refine h.imp_of_mem fun {x y} hx hy hequal => ⟨hequal, ?_⟩
    rw [Value.equal_comm (hitems y hy) (hitems x hx)]
    exact hequal
  exact ((hperm.pairwise_iff And.symm).mp hboth).imp And.left

end Items

/-- With `uniqueItems`, an array is reported for nothing exactly when no two of
its items are equal, and so whatever their order. An item with an equal one
before it is named once, with the first of those, and no other item is. Without
doubles there are as many reports as items beyond the distinct ones. -/
theorem repetitions_exact (scope : Scope) (bound : Nat) {node : Members}
    (hunique : node.bool? "uniqueItems" = some true) (f : Frame) {items : List Value}
    (hitems : ∀ item ∈ items, item.WellFormed) :
    (repetitions scope bound node f items = [] ↔ ∀ i j, i ≠ j → ¬SameAt items i j) ∧
    (∀ items' : List Value, items.Perm items' →
      (repetitions scope bound node f items' = [] ↔ repetitions scope bound node f items = [])) ∧
    (∀ later,
      ((∃ earlier < later, SameAt items earlier later) → ∃ first, Repeats items first later ∧
        (repetitions scope bound node f items).filter (·.2 = later) = [(first, later)]) ∧
      ((¬∃ earlier < later, SameAt items earlier later) →
        (repetitions scope bound node f items).filter (·.2 = later) = [])) ∧
    ((∀ item ∈ items, item.DoubleFree) →
      (repetitions scope bound node f items).length + {item | item ∈ items}.ncard =
        items.length) := by
  simp only [repetitions_eq hunique]
  refine ⟨?_, fun items' hperm => ?_, fun later => ⟨?_, fun hnone => ?_⟩, length_repetitions hitems⟩
  · rw [repetitions_eq_nil_iff, repetitionFaults_eq_nil, pairwise_iff_of_wellFormed hitems]
  · rw [repetitions_eq_nil_iff, repetitions_eq_nil_iff, repetitionFaults_eq_nil, repetitionFaults_eq_nil]
    have hitems' : ∀ item ∈ items', item.WellFormed :=
      fun item hmem => hitems item (hperm.mem_iff.mpr hmem)
    exact ⟨pairwise_of_perm hitems' hperm.symm, pairwise_of_perm hitems hperm⟩
  · rintro ⟨earlier, hlt, hsame⟩
    obtain ⟨first, hrepeats⟩ := exists_repeats hlt hsame
    exact ⟨first, hrepeats, filter_eq_singleton repetitionFaults_pairwise (mem_repetitions.mpr hrepeats)⟩
  · refine List.filter_eq_nil_iff.mpr fun pair hpair heq => hnone ?_
    have hrepeats := mem_repetitions.mp hpair
    rw [of_decide_eq_true heq] at hrepeats
    exact ⟨pair.1, hrepeats.before, hrepeats.same⟩

theorem repetitions_exact_three :
    let one : Value := .object [("a", .ofInt 1)]
    let node : Members := [("uniqueItems", .bool true)]
    let scope : Scope := ⟨.object node, .empty⟩
    let items : List Value := [one, .ofInt 2, one, one]
    let f : Frame := ⟨.array items, .root, .object node, .empty⟩
    node.bool? "uniqueItems" = some true ∧ (∀ item ∈ items, item.WellFormed) ∧
      (∀ item ∈ items, item.DoubleFree) ∧
      repetitions scope 2 node f items = [(0, 2), (0, 3)] ∧
      (∃ first, Repeats items first 3 ∧
        (repetitions scope 2 node f items).filter (·.2 = 3) = [(first, 3)]) ∧
      repetitions scope 2 node f items.reverse ≠ [] ∧
      (repetitions scope 2 node f items).length + {item | item ∈ items}.ncard = 4 := by
  intro one node scope items f
  have hone : one.WellFormed := by
    refine .ofMembers (List.pairwise_singleton ..) fun key child hmem => ?_
    obtain ⟨-, rfl⟩ := Prod.mk.inj (List.mem_singleton.mp hmem)
    exact .ofNumber ⟨by decide, by decide⟩
  have htwo : (Value.ofInt 2).WellFormed := .ofNumber ⟨by decide, by decide⟩
  have hitems : ∀ item ∈ items, item.WellFormed := by simp [items, hone, htwo]
  have hinteger (i : Int) : (Value.ofInt i).DoubleFree := fun x hx => nomatch hx
  have hmember : one.DoubleFree := by
    show (Value.object [("a", .ofInt 1)]).DoubleFree
    intro x hx
    cases hx with
    | member hmem hx =>
      obtain ⟨-, rfl⟩ := Prod.mk.inj (List.mem_singleton.mp hmem)
      exact hinteger 1 x hx
  have hfree : ∀ item ∈ items, item.DoubleFree := by simp [items, hmember, hinteger]
  have hreported : repetitions scope 2 node f items = [(0, 2), (0, 3)] := by decide
  have hunique : node.bool? "uniqueItems" = some true := rfl
  obtain ⟨-, hperm, hexact, hlength⟩ := repetitions_exact scope 2 hunique f hitems
  refine ⟨hunique, hitems, hfree, hreported, ?_, ?_, hlength hfree⟩
  · exact (hexact 3).1 ⟨0, by decide, one, one, rfl, rfl, by decide⟩
  · rw [Ne, hperm items.reverse (List.reverse_perm items).symm, hreported]
    exact List.cons_ne_nil _ _

end Validation

end TreeSchema
