import Mathlib.Algebra.Order.Ring.Int
import TreeSchema.Proofs.Rounding
import TreeSchema.Proofs.WellFormed

/-!
# Spellings of a number

The same number may be spelled as an integer or as a double. `Number.Respelled`
relates two spellings that comparisons and the division by any divisor among
`divisors` do not tell apart: such an integer is small enough to be a double
itself, and small divisors keep the quotients of integers well apart.
-/

namespace TreeSchema

-- Powers are the core ones, whatever else is in scope.
attribute [local instance (high)] instPowNat

namespace Number

-- -----------------------------------------------------------------------------
-- Comparison

theorem natAbs_le_of_inRange {i : Int} (h : InRange (.integer i)) : i.natAbs ≤ 2 ^ 64 := by
  obtain ⟨hleast, hgreatest⟩ := h
  simp only [leastInteger, greatestInteger] at hleast hgreatest
  omega

theorem compare_double_left (x : Binary64) (m : Number) :
    compare (.double x) m = m.toBinary64.map (Binary64.compare x) := by
  simp only [compare]
  cases m.toBinary64 <;> rfl

theorem compare_double_right (n : Number) (y : Binary64) :
    n.compare (.double y) = n.toBinary64.map (Binary64.compare · y) := by
  simp only [compare]
  cases n.toBinary64 <;> rfl

theorem compare_swap (n m : Number) : (m.compare n).map Ordering.swap = n.compare m := by
  have hswap (x y : Binary64) : (Binary64.compare y x).swap = Binary64.compare x y :=
    Int.compare_swap ..
  cases n with
  | integer i =>
    cases m with
    | integer j => exact congrArg some (Int.compare_swap j i)
    | double y =>
      rw [compare_double_left, compare_double_right, Option.map_map]
      exact congrArg (Option.map · _) (funext fun x => hswap x y)
  | double x =>
    rw [compare_double_left, compare_double_right, Option.map_map]
    exact congrArg (Option.map · _) (funext fun y => hswap x y)

theorem compare_ofInt {i j : Int} (hi : i.natAbs < 2 ^ 53) (hj : InRange (.integer j)) :
    ∃ y, Binary64.ofInt j = some y ∧
      Ord.compare (i * Binary64.unitsPerOne) y.units = Ord.compare i j := by
  have hunit : (0 : Int) < Binary64.unitsPerOne := Int.natCast_pos.mpr Binary64.unitsPerOne_pos
  by_cases hsmall : j.natAbs < 2 ^ 53
  · obtain ⟨y, hy, hunits⟩ := Binary64.ofInt_of_lt hsmall
    refine ⟨y, hy, ?_⟩
    rw [hunits, ← cmp_eq_compare, ← cmp_eq_compare]
    exact cmp_mul_pos_right hunit i j
  · obtain ⟨y, hy, hnegative, hmagnitude⟩ :=
      Binary64.ofInt_of_le (Nat.not_lt.mp hsmall) (natAbs_le_of_inRange hj)
    refine ⟨y, hy, ?_⟩
    have hbelow : i * Binary64.unitsPerOne < (2 ^ 53 : Nat) * Binary64.unitsPerOne :=
      Int.mul_lt_mul_of_pos_right (by omega) hunit
    have habove : -((2 ^ 53 : Nat) * Binary64.unitsPerOne : Int) < i * Binary64.unitsPerOne := by
      rw [← Int.neg_mul]
      exact Int.mul_lt_mul_of_pos_right (by omega) hunit
    have hfar : ((2 ^ 53 : Nat) * Binary64.unitsPerOne : Int) ≤ y.magnitude := by
      exact_mod_cast hmagnitude
    by_cases hj : j < 0
    · have hunits : y.units = -y.magnitude := by simp [Binary64.units, hnegative, hj]
      rw [Int.compare_eq_gt.mpr (show j < i by omega), Int.compare_eq_gt.mpr (by omega)]
    · have hunits : y.units = y.magnitude := by simp [Binary64.units, hnegative, hj]
      rw [Int.compare_eq_lt.mpr (show i < j by omega), Int.compare_eq_lt.mpr (by omega)]

-- -----------------------------------------------------------------------------
-- Spellings

/-- An integer whose spelling does not matter to division by `divisors`: it is
below `2 ^ 53`, and each of them divides it or is below a third of `2 ^ 31`. -/
structure Plain (divisors : Nat → Prop) (i : Int) : Prop where
  small : i.natAbs < 2 ^ (53 : Nat)
  divisors : ∀ d, divisors d → d ∣ i.natAbs ∨ 3 * d < 2 ^ (31 : Nat)

inductive Respelled (divisors : Nat → Prop) : Number → Number → Prop
  | integer {i : Int} : InRange (.integer i) → Respelled divisors (.integer i) (.integer i)
  | double {x y : Binary64} : x.units = y.units → Respelled divisors (.double x) (.double y)
  | asDouble {i : Int} {x : Binary64} : Plain divisors i → x.units = i * Binary64.unitsPerOne →
      Respelled divisors (.integer i) (.double x)
  | asInteger {i : Int} {x : Binary64} : Plain divisors i → x.units = i * Binary64.unitsPerOne →
      Respelled divisors (.double x) (.integer i)

variable {divisors : Nat → Prop} {n n' m m' : Number}

theorem Plain.inRange {i : Int} (h : Plain divisors i) : InRange (.integer i) := by
  have := h.small
  simp only [InRange, leastInteger, greatestInteger]
  omega

theorem Respelled.refl (h : n.InRange) : Respelled divisors n n := by
  cases n with
  | integer i => exact .integer h
  | double x => exact .double rfl

theorem Respelled.symm (h : Respelled divisors n m) : Respelled divisors m n := by
  cases h with
  | integer hrange => exact .integer hrange
  | double hunits => exact .double hunits.symm
  | asDouble hplain hunits => exact .asInteger hplain hunits
  | asInteger hplain hunits => exact .asDouble hplain hunits

theorem Respelled.inRange (h : Respelled divisors n m) : n.InRange := by
  cases h with
  | integer hrange => exact hrange
  | double => trivial
  | asDouble hplain => exact hplain.inRange
  | asInteger => trivial

theorem respelled_of_equal (hn : n.InRange) (h : n.equal m = true)
    (hdouble : ∀ i x, n = .integer i → m = .double x → Plain divisors i)
    (hinteger : ∀ x i, n = .double x → m = .integer i → Plain divisors i) :
    Respelled divisors n m := by
  have hcompare : n.compare m = some .eq := by simpa [equal] using h
  cases n with
  | integer i =>
    cases m with
    | integer j =>
      obtain rfl := Int.compare_eq_eq.mp (Option.some.inj hcompare)
      exact .integer hn
    | double x =>
      have hplain := hdouble i x rfl rfl
      obtain ⟨y, hy, hunits⟩ := Binary64.ofInt_of_lt hplain.small
      rw [compare_double_right, toBinary64, hy] at hcompare
      have := Int.compare_eq_eq.mp (Option.some.inj hcompare)
      exact .asDouble hplain (this.symm.trans hunits)
  | double x =>
    rw [compare_double_left] at hcompare
    cases m with
    | integer i =>
      have hplain := hinteger x i rfl rfl
      obtain ⟨y, hy, hunits⟩ := Binary64.ofInt_of_lt hplain.small
      rw [toBinary64, hy] at hcompare
      have := Int.compare_eq_eq.mp (Option.some.inj hcompare)
      exact .asInteger hplain (this.trans hunits)
    | double y => exact .double (Int.compare_eq_eq.mp (Option.some.inj hcompare))

-- -----------------------------------------------------------------------------
-- What does not depend on the spelling

theorem compare_asDouble {i : Int} {x : Binary64} (hplain : Plain divisors i)
    (hunits : x.units = i * Binary64.unitsPerOne) (hm : m.InRange) :
    compare (.integer i) m = compare (.double x) m := by
  rw [compare_double_left]
  cases m with
  | integer j =>
    obtain ⟨y, hy, hcompare⟩ := compare_ofInt hplain.small hm
    simp only [compare, toBinary64, hy, Option.map_some, Binary64.compare, hunits, hcompare]
  | double y =>
    obtain ⟨z, hz, hz'⟩ := Binary64.ofInt_of_lt hplain.small
    simp only [compare_double_right, toBinary64, hz, Option.map_some, Binary64.compare, hunits, hz']

theorem Respelled.compare_left (h : Respelled divisors n n') (hm : m.InRange) :
    n.compare m = n'.compare m := by
  cases h with
  | integer => rfl
  | @double x y hunits =>
    have : Binary64.compare x = Binary64.compare y := by
      funext z
      simp only [Binary64.compare, hunits]
    rw [compare_double_left, compare_double_left, this]
  | asDouble hplain hunits => exact compare_asDouble hplain hunits hm
  | asInteger hplain hunits => exact (compare_asDouble hplain hunits hm).symm

theorem Respelled.equal (h : Respelled divisors n n') (hm : Respelled divisors m m') :
    n.equal m = n'.equal m' := by
  have hcompare : n.compare m = n'.compare m' := by
    calc n.compare m
        = n'.compare m := h.compare_left hm.inRange
      _ = (m.compare n').map Ordering.swap := (compare_swap ..).symm
      _ = (m'.compare n').map Ordering.swap := by rw [hm.compare_left h.symm.inRange]
      _ = n'.compare m' := compare_swap ..
  rw [Number.equal, Number.equal, hcompare]

theorem isWhole_of_units {i : Int} {x : Binary64} (h : x.units = i * Binary64.unitsPerOne) :
    x.isWhole = true := by
  simp [Binary64.isWhole, Binary64.magnitude_eq_mul h]

theorem Respelled.isWhole (h : Respelled divisors n m) : n.isWhole = m.isWhole := by
  cases h with
  | integer => rfl
  | double hunits =>
    simp only [Number.isWhole, Binary64.isWhole, Binary64.magnitude_eq_natAbs, hunits]
  | asDouble _ hunits => exact (isWhole_of_units hunits).symm
  | asInteger _ hunits => exact isWhole_of_units hunits

-- -----------------------------------------------------------------------------
-- Multiples

def isNearWhole (quotient : Binary64) : Bool := quotient.distanceToWhole < multipleTolerance

theorem isMultipleOf_double_left (x : Binary64) (divisor : Number) :
    isMultipleOf (.double x) divisor = (divisor.toBinary64.bind x.div).any isNearWhole := by
  simp only [isMultipleOf]
  cases divisor.toBinary64 with
  | none => rfl
  | some y =>
    simp only [toBinary64, Option.bind_some]
    cases x.div y <;> simp [isNearWhole]

theorem isMultipleOf_double_right (n : Number) (y : Binary64) :
    n.isMultipleOf (.double y) = (n.toBinary64.bind (·.div y)).any isNearWhole := by
  simp only [isMultipleOf]
  cases n.toBinary64 with
  | none => rfl
  | some x =>
    simp only [toBinary64, Option.bind_some]
    cases x.div y <;> simp [isNearWhole]

theorem any_div_congr {x x' : Binary64} (h : x.magnitude = x'.magnitude) (y : Binary64) :
    (x.div y).any isNearWhole = (x'.div y).any isNearWhole := by
  have hround (negative : Bool) (num den : Nat) : (Binary64.round negative num den).any isNearWhole =
      (Binary64.round false num den).any isNearWhole := by
    simp only [Binary64.round]
    split <;> split <;> simp [isNearWhole, Binary64.distanceToWhole, Binary64.magnitude]
  simp only [Binary64.div, h]
  split
  · rfl
  · rw [hround, hround (x'.negative != y.negative)]

theorem ofInt_of_pos {d : Nat} (hpos : 0 < d) (hrange : InRange (.integer d)) :
    ∃ y, Binary64.ofInt d = some y ∧ 0 < y.magnitude := by
  by_cases hsmall : d < 2 ^ 53
  · obtain ⟨y, hy, hunits⟩ := Binary64.ofInt_of_lt (i := d) hsmall
    refine ⟨y, hy, ?_⟩
    rw [Binary64.magnitude_eq_mul hunits]
    exact Nat.mul_pos hpos Binary64.unitsPerOne_pos
  · obtain ⟨y, hy, -, hmagnitude⟩ :=
      Binary64.ofInt_of_le (i := d) (Nat.not_lt.mp hsmall) (natAbs_le_of_inRange hrange)
    exact ⟨y, hy, Nat.lt_of_lt_of_le (Nat.mul_pos (by decide) Binary64.unitsPerOne_pos) hmagnitude⟩

theorem isMultipleOf_integer {i : Int} {x : Binary64} {d : Nat} (hplain : Plain divisors i)
    (hunits : x.units = i * Binary64.unitsPerOne) (hpos : 0 < d) (hrange : InRange (.integer d))
    (hd : divisors d) :
    isMultipleOf (.integer i) (.integer d) = isMultipleOf (.double x) (.integer d) := by
  have hx := Binary64.magnitude_eq_mul hunits
  have hdvd : isMultipleOf (.integer i) (.integer d) = decide (d ∣ i.natAbs) := by
    rw [isMultipleOf, decide_eq_decide, ← Int.natCast_dvd, Int.dvd_iff_emod_eq_zero]
  rw [hdvd, isMultipleOf_double_left, toBinary64]
  by_cases hzero : i = 0
  · rw [hzero, Int.natAbs_zero, Nat.zero_mul] at hx
    obtain ⟨y, hy, hmagnitude⟩ := ofInt_of_pos hpos hrange
    obtain ⟨quotient, hquotient, hwhole⟩ := Binary64.div_of_magnitude_eq_zero hx hmagnitude
    simp [hzero, hy, hquotient, isNearWhole, hwhole, Binary64.multipleTolerance_pos]
  · have hsmall : d < 2 ^ 53 := by
      obtain hdivides | hless := hplain.divisors d hd
      · exact Nat.lt_of_le_of_lt (Nat.le_of_dvd (Int.natAbs_pos.mpr hzero) hdivides) hplain.small
      · omega
    obtain ⟨y, hy, hy'⟩ := Binary64.ofInt_of_lt (i := d) hsmall
    obtain ⟨quotient, hquotient, hwhole⟩ := Binary64.distanceToWhole_div_lt_iff hx
      (Binary64.magnitude_eq_mul hy') hplain.small hpos hsmall (hplain.divisors d hd)
    simp [hy, hquotient, isNearWhole, hwhole]

theorem isMultipleOf_asDouble {i : Int} {x : Binary64} {divisor : Number}
    (hplain : Plain divisors i) (hunits : x.units = i * Binary64.unitsPerOne)
    (hrange : divisor.InRange) (hpos : divisor.isPositive = true)
    (hdivisor : ∀ d : Nat, divisor = .integer d → divisors d) :
    isMultipleOf (.integer i) divisor = isMultipleOf (.double x) divisor := by
  cases divisor with
  | integer d =>
    have hd : 0 < d := by simpa [isPositive] using hpos
    obtain ⟨d, rfl⟩ := Int.eq_ofNat_of_zero_le (Int.le_of_lt hd)
    exact isMultipleOf_integer hplain hunits (Int.natCast_pos.mp hd) hrange (hdivisor d rfl)
  | double y =>
    obtain ⟨z, hz, hz'⟩ := Binary64.ofInt_of_lt hplain.small
    rw [isMultipleOf_double_right, isMultipleOf_double_left, toBinary64, toBinary64, hz,
      Option.bind_some, Option.bind_some]
    refine any_div_congr ?_ y
    rw [Binary64.magnitude_eq_mul hunits, Binary64.magnitude_eq_mul hz']

theorem Respelled.isMultipleOf (h : Respelled divisors n m) {divisor : Number}
    (hrange : divisor.InRange) (hpos : divisor.isPositive = true)
    (hdivisor : ∀ d : Nat, divisor = .integer d → divisors d) :
    n.isMultipleOf divisor = m.isMultipleOf divisor := by
  cases h with
  | integer => rfl
  | @double x y hunits =>
    have hmagnitude : x.magnitude = y.magnitude := by
      rw [Binary64.magnitude_eq_natAbs, Binary64.magnitude_eq_natAbs, hunits]
    rw [isMultipleOf_double_left, isMultipleOf_double_left]
    cases divisor.toBinary64 with
    | none => simp
    | some z => exact any_div_congr hmagnitude z
  | asDouble hplain hunits => exact isMultipleOf_asDouble hplain hunits hrange hpos hdivisor
  | asInteger hplain hunits =>
    exact (isMultipleOf_asDouble hplain hunits hrange hpos hdivisor).symm

end Number

end TreeSchema
