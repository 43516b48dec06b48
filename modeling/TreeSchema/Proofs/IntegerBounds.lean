import Mathlib.Data.List.Forall2
import TreeSchema.Proofs.Subschema
import TreeSchema.Proofs.WellFormed

/-!
# Bounds on integers

An integer is compared with integer bounds, and divided by an integer divisor,
as the numbers that they are (`integer_bounds`): each bound that it breaks is
reported once, in the order of the keywords, and signed words of 128 bits hold
all that this needs.
-/

namespace TreeSchema.Validation

-- Powers are the core ones, whatever else is in scope.
attribute [local instance (high)] instPowNat

inductive Bound where
  | minimum | maximum | exclusiveMinimum | exclusiveMaximum | multipleOf
  deriving DecidableEq

namespace Bound

def keyword : Bound → String
  | .minimum => "minimum"
  | .maximum => "maximum"
  | .exclusiveMinimum => "exclusiveMinimum"
  | .exclusiveMaximum => "exclusiveMaximum"
  | .multipleOf => "multipleOf"

def all : List Bound := [.minimum, .maximum, .exclusiveMinimum, .exclusiveMaximum, .multipleOf]

theorem mem_all (bound : Bound) : bound ∈ all := by
  cases bound <;> decide

def States (bound : Bound) (node : Members) (i : Int) : Prop :=
  node.number? bound.keyword = some (.integer i)

theorem States.unique {bound : Bound} {node : Members} {i j : Int} (h : bound.States node i)
    (h' : bound.States node j) : i = j := by
  simpa using h.symm.trans h'

end Bound

/-- The integer `n` breaks a bound, and how. The flag beside an inclusive bound
makes it strict; a divisor that is not positive is no bound. -/
inductive Broken (n : Int) (node : Members) : Bound → Fault → Prop
  | below {limit : Int} : Bound.minimum.States node limit → n < limit →
      Broken n node .minimum (.belowMinimum (.integer n) (.integer limit))
  | atMinimum {limit : Int} : Bound.minimum.States node limit → n = limit →
      node.bool? "exclusiveMinimum" = some true →
      Broken n node .minimum (.atOrBelowExclusiveMinimum (.integer n) (.integer limit))
  | above {limit : Int} : Bound.maximum.States node limit → limit < n →
      Broken n node .maximum (.aboveMaximum (.integer n) (.integer limit))
  | atMaximum {limit : Int} : Bound.maximum.States node limit → n = limit →
      node.bool? "exclusiveMaximum" = some true →
      Broken n node .maximum (.atOrAboveExclusiveMaximum (.integer n) (.integer limit))
  | atOrBelow {limit : Int} : Bound.exclusiveMinimum.States node limit → n ≤ limit →
      Broken n node .exclusiveMinimum (.atOrBelowExclusiveMinimum (.integer n) (.integer limit))
  | atOrAbove {limit : Int} : Bound.exclusiveMaximum.States node limit → limit ≤ n →
      Broken n node .exclusiveMaximum (.atOrAboveExclusiveMaximum (.integer n) (.integer limit))
  | undivided {divisor : Int} : Bound.multipleOf.States node divisor → 0 < divisor →
      ¬divisor ∣ n → Broken n node .multipleOf (.notMultipleOf (.integer n) (.integer divisor))

inductive Reports (n : Int) (node : Members) (bound : Bound) : List Fault → Prop
  | kept : (∀ fault, ¬Broken n node bound fault) → Reports n node bound []
  | broken {fault : Fault} : Broken n node bound fault → Reports n node bound [fault]

variable {n : Int} {node : Members} {bound : Bound}

-- -----------------------------------------------------------------------------
-- One bound

theorem broken_states {fault : Fault} (h : Broken n node bound fault) :
    ∃ i, bound.States node i := by
  cases h with
  | below h | atMinimum h | above h | atMaximum h | atOrBelow h | atOrAbove h | undivided h =>
    exact ⟨_, h⟩

theorem reports_nil (h : node.number? bound.keyword = none) : Reports n node bound [] := by
  refine .kept fun fault hbroken => ?_
  obtain ⟨i, hi⟩ := broken_states hbroken
  simp [Bound.States, h] at hi

theorem reports_when {applies : Bool} {fault : Fault}
    (h : applies = true → Broken n node bound fault)
    (h' : applies = false → ∀ other, ¬Broken n node bound other) :
    Reports n node bound (Fault.when applies fault) := by
  cases applies with
  | false => exact .kept (h' rfl)
  | true => exact .broken (h rfl)

theorem compare_integer (n limit : Int) :
    (Number.integer n).compare (.integer limit) = some (Ord.compare n limit) := rfl

theorem reports_elim {g : Number → List Fault}
    (hinteger : ∀ limit, node.number? bound.keyword = some limit → ∃ i, limit = .integer i)
    (h : ∀ i, bound.States node i → Reports n node bound (g (.integer i))) :
    Reports n node bound ((node.number? bound.keyword).elim [] g) := by
  cases hlimit : node.number? bound.keyword with
  | none => exact reports_nil hlimit
  | some limit =>
    obtain ⟨i, rfl⟩ := hinteger limit hlimit
    exact h i hlimit

theorem reports_minimum
    (hinteger : ∀ limit, node.number? "minimum" = some limit → ∃ i, limit = .integer i) :
    Reports n node .minimum (minimumFaults (.integer n) node) := by
  refine reports_elim hinteger fun i hi => ?_
  simp only [compare_integer]
  rcases Int.lt_trichotomy n i with hlt | heq | hgt
  · simp only [Int.compare_eq_lt.mpr hlt]
    exact .broken (.below hi hlt)
  · simp only [Int.compare_eq_eq.mpr heq]
    refine reports_when (fun hstrict => .atMinimum hi heq (by simpa using hstrict)) ?_
    intro hstrict other hother
    cases hother with
    | below h hlt =>
      have := hi.unique h
      omega
    | atMinimum _ _ hflag => simp [hflag] at hstrict
  · simp only [Int.compare_eq_gt.mpr hgt]
    refine .kept fun other hother => ?_
    cases hother with
    | below h | atMinimum h =>
      have := hi.unique h
      omega

theorem reports_maximum
    (hinteger : ∀ limit, node.number? "maximum" = some limit → ∃ i, limit = .integer i) :
    Reports n node .maximum (maximumFaults (.integer n) node) := by
  refine reports_elim hinteger fun i hi => ?_
  simp only [compare_integer]
  rcases Int.lt_trichotomy n i with hlt | heq | hgt
  · simp only [Int.compare_eq_lt.mpr hlt]
    refine .kept fun other hother => ?_
    cases hother with
    | above h | atMaximum h =>
      have := hi.unique h
      omega
  · simp only [Int.compare_eq_eq.mpr heq]
    refine reports_when (fun hstrict => .atMaximum hi heq (by simpa using hstrict)) ?_
    intro hstrict other hother
    cases hother with
    | above h hgt =>
      have := hi.unique h
      omega
    | atMaximum _ _ hflag => simp [hflag] at hstrict
  · simp only [Int.compare_eq_gt.mpr hgt]
    exact .broken (.above hi hgt)

theorem reports_exclusiveMinimum
    (hinteger : ∀ limit, node.number? "exclusiveMinimum" = some limit → ∃ i, limit = .integer i) :
    Reports n node .exclusiveMinimum ((node.number? "exclusiveMinimum").elim [] fun limit =>
      Fault.when ((Number.integer n).compare limit == some .lt ||
        (Number.integer n).compare limit == some .eq)
        (.atOrBelowExclusiveMinimum (.integer n) limit)) := by
  refine reports_elim hinteger fun i hi => ?_
  have hiff : ((Number.integer n).compare (.integer i) == some .lt ||
      (Number.integer n).compare (.integer i) == some .eq) = decide (n ≤ i) := by
    rw [Bool.eq_iff_iff]
    simp [compare_integer, Int.compare_eq_lt]
    omega
  rw [hiff]
  refine reports_when (fun hle => .atOrBelow hi (of_decide_eq_true hle)) ?_
  intro hnot other hother
  cases hother with
  | atOrBelow h hle =>
    rw [← hi.unique h] at hle
    simp [hle] at hnot

theorem reports_exclusiveMaximum
    (hinteger : ∀ limit, node.number? "exclusiveMaximum" = some limit → ∃ i, limit = .integer i) :
    Reports n node .exclusiveMaximum ((node.number? "exclusiveMaximum").elim [] fun limit =>
      Fault.when ((Number.integer n).compare limit == some .gt ||
        (Number.integer n).compare limit == some .eq)
        (.atOrAboveExclusiveMaximum (.integer n) limit)) := by
  refine reports_elim hinteger fun i hi => ?_
  have hiff : ((Number.integer n).compare (.integer i) == some .gt ||
      (Number.integer n).compare (.integer i) == some .eq) = decide (i ≤ n) := by
    rw [Bool.eq_iff_iff]
    simp [compare_integer, Int.compare_eq_gt]
    omega
  rw [hiff]
  refine reports_when (fun hle => .atOrAbove hi (of_decide_eq_true hle)) ?_
  intro hnot other hother
  cases hother with
  | atOrAbove h hle =>
    rw [← hi.unique h] at hle
    simp [hle] at hnot

theorem reports_multipleOf
    (hinteger : ∀ divisor, node.number? "multipleOf" = some divisor → ∃ i, divisor = .integer i) :
    Reports n node .multipleOf (multipleFaults (.integer n) node) := by
  refine reports_elim hinteger fun i hi => ?_
  have hiff : ((Number.integer i).isPositive && !(Number.integer n).isMultipleOf (.integer i)) =
      decide (0 < i ∧ ¬i ∣ n) := by
    rw [Bool.eq_iff_iff]
    simp only [Number.isPositive, Number.isMultipleOf, Bool.and_eq_true, Bool.not_eq_true',
      decide_eq_true_eq, decide_eq_false_iff_not, Int.dvd_iff_emod_eq_zero]
  rw [hiff]
  refine reports_when (fun hbroken => ?_) ?_
  · obtain ⟨hpos, hdvd⟩ := of_decide_eq_true hbroken
    exact .undivided hi hpos hdvd
  · intro hnot other hother
    cases hother with
    | undivided h hpos hdvd =>
      rw [← hi.unique h] at hpos hdvd
      simp [hpos, hdvd] at hnot

-- -----------------------------------------------------------------------------
-- All bounds

theorem reports_all
    (hinteger : ∀ bound : Bound, ∀ limit, node.number? bound.keyword = some limit →
      ∃ i, limit = .integer i) :
    ∃ parts, List.Forall₂ (Reports n node) Bound.all parts ∧
      numberFaults (.integer n) node = parts.flatten := by
  refine ⟨_, .cons (reports_minimum (hinteger .minimum)) <|
    .cons (reports_maximum (hinteger .maximum)) <|
    .cons (reports_exclusiveMinimum (hinteger .exclusiveMinimum)) <|
    .cons (reports_exclusiveMaximum (hinteger .exclusiveMaximum)) <|
    .cons (reports_multipleOf (hinteger .multipleOf)) .nil, ?_⟩
  simp [numberFaults, exclusiveFaults]

theorem exists_broken {bounds : List Bound} {parts : List (List Fault)}
    (h : List.Forall₂ (Reports n node) bounds parts) :
    ∃ broken, broken.Sublist bounds ∧
      (∀ bound ∈ bounds, (∃ fault, Broken n node bound fault) → bound ∈ broken) ∧
      List.Forall₂ (Broken n node) broken parts.flatten := by
  induction h with
  | nil => exact ⟨[], .slnil, by simp, .nil⟩
  | cons hreports _ ih =>
    obtain ⟨broken, hsub, hall, hfaults⟩ := ih
    cases hreports with
    | kept hkept =>
      refine ⟨broken, hsub.cons _, ?_, by simpa using hfaults⟩
      rintro other hmem ⟨fault, hfault⟩
      rcases List.mem_cons.mp hmem with rfl | hmem
      · exact absurd hfault (hkept fault)
      · exact hall other hmem ⟨fault, hfault⟩
    | broken hbroken =>
      refine ⟨_ :: broken, hsub.cons_cons _, ?_, .cons hbroken hfaults⟩
      rintro other hmem hother
      rcases List.mem_cons.mp hmem with rfl | hmem
      · exact List.mem_cons_self
      · exact List.mem_cons_of_mem _ (hall other hmem hother)

-- -----------------------------------------------------------------------------
-- Machine words

section Words

variable {i : Int}

def word (i : Int) : BitVec 128 := BitVec.ofInt 128 i

theorem toInt_word (h : (Number.integer i).InRange) : (word i).toInt = i := by
  obtain ⟨hleast, hgreatest⟩ := h
  simp only [Number.leastInteger, Number.greatestInteger] at hleast hgreatest
  exact BitVec.toInt_ofInt_eq_self (by decide) (by omega) (by omega)

theorem slt_word (hn : (Number.integer n).InRange) (hi : (Number.integer i).InRange) :
    (word n).slt (word i) = decide (n < i) := by
  rw [BitVec.slt, toInt_word hn, toInt_word hi]

theorem word_inj (hn : (Number.integer n).InRange) (hi : (Number.integer i).InRange) :
    word n = word i ↔ n = i := by
  rw [← BitVec.toInt_inj, toInt_word hn, toInt_word hi]

theorem sdivOverflow_word (hn : (Number.integer n).InRange) (hi : (Number.integer i).InRange)
    (hpos : 0 < i) : (word n).sdivOverflow (word i) = false := by
  rw [BitVec.sdivOverflow, toInt_word hn, toInt_word hi]
  obtain ⟨hleast, hgreatest⟩ := hn
  simp only [Number.leastInteger, Number.greatestInteger] at hleast hgreatest
  have hlow : -2 ^ 64 ≤ n / i := Int.le_ediv_of_mul_le hpos (by omega)
  have hhigh : n / i < 2 ^ 64 := Int.ediv_lt_of_lt_mul hpos (by omega)
  simp only [Bool.or_eq_false_iff, decide_eq_false_iff_not]
  omega

theorem srem_word (hn : (Number.integer n).InRange) (hi : (Number.integer i).InRange) :
    (word n).srem (word i) = 0#128 ↔ i ∣ n := by
  rw [← BitVec.toInt_inj, BitVec.toInt_srem, toInt_word hn, toInt_word hi, BitVec.toInt_zero,
    Int.dvd_iff_tmod_eq_zero]

end Words

/-- Let an integer and the bounds that are numbers be integers in range. Then the
faults of the integer are those of the bounds that it breaks, one for each, in
the order of the bounds. Order, equality and, for a positive divisor, the
truncated remainder of the integer and a bound are those of their words, and no
quotient overflows. -/
theorem integer_bounds (hn : (Number.integer n).InRange)
    (hnode : ∀ (bound : Bound) (limit : Number), node.number? bound.keyword = some limit →
      ∃ i, limit = .integer i ∧ limit.InRange) :
    (∃ broken, broken.Sublist Bound.all ∧
      (∀ bound, bound ∈ broken ↔ ∃ fault, Broken n node bound fault) ∧
      List.Forall₂ (Broken n node) broken (numberFaults (.integer n) node)) ∧
    ∀ (bound : Bound) (i : Int), bound.States node i →
      (word n).slt (word i) = decide (n < i) ∧ (word n = word i ↔ n = i) ∧
      (0 < i → word i ≠ 0#128 ∧ (word n).sdivOverflow (word i) = false ∧
        ((word n).srem (word i) = 0#128 ↔ i ∣ n)) := by
  constructor
  · obtain ⟨parts, hparts, hfaults⟩ := reports_all fun bound limit hlimit =>
      (hnode bound limit hlimit).imp fun _ => And.left
    obtain ⟨broken, hsub, hall, hbroken⟩ := exists_broken hparts
    rw [hfaults]
    refine ⟨broken, hsub, fun bound => ⟨fun hmem => ?_, hall bound bound.mem_all⟩, hbroken⟩
    exact forall₂_exists_right hbroken hmem
  · intro bound i hi
    obtain ⟨_, -, hrange⟩ := hnode bound _ hi
    refine ⟨slt_word hn hrange, word_inj hn hrange, fun hpos => ⟨fun hzero => ?_, ?_, ?_⟩⟩
    · have h := toInt_word hrange
      simp [hzero] at h
      omega
    · exact sdivOverflow_word hn hrange hpos
    · exact srem_word hn hrange

theorem integer_bounds_least :
    let n : Int := -9223372036854775808
    let node : Members := [("exclusiveMinimum", .ofInt n), ("maximum", .ofInt n),
      ("minimum", .ofInt 18446744073709551615), ("multipleOf", .ofInt 3)]
    (Number.integer n).InRange ∧
      (∀ (bound : Bound) (limit : Number), node.number? bound.keyword = some limit →
        ∃ i, limit = .integer i ∧ limit.InRange) ∧
      numberFaults (.integer n) node = [.belowMinimum (.integer n) (.integer 18446744073709551615),
        .atOrBelowExclusiveMinimum (.integer n) (.integer n),
        .notMultipleOf (.integer n) (.integer 3)] ∧
      (∃ broken, broken.Sublist Bound.all ∧
        (∀ bound, bound ∈ broken ↔ ∃ fault, Broken n node bound fault) ∧
        List.Forall₂ (Broken n node) broken (numberFaults (.integer n) node)) ∧
      (word n).sdivOverflow (word 3) = false := by
  intro n node
  have hn : (Number.integer n).InRange := ⟨by decide, by decide⟩
  have hnode : ∀ (bound : Bound) (limit : Number), node.number? bound.keyword = some limit →
      ∃ i, limit = .integer i ∧ limit.InRange := by
    intro bound limit hlimit
    cases bound with
    | exclusiveMaximum => exact nomatch hlimit
    | _ =>
      obtain rfl := Option.some.inj hlimit
      exact ⟨_, rfl, by decide, by decide⟩
  obtain ⟨hbroken, hwords⟩ := integer_bounds hn hnode
  exact ⟨hn, hnode, rfl, hbroken, ((hwords .multipleOf 3 rfl).2.2 (by decide)).2.1⟩

end TreeSchema.Validation
