import Mathlib.Data.Nat.Log
import Mathlib.Tactic.Ring
import TreeSchema.Number

/-!
# Rounding to binary64

What `Binary64.round` returns in units, how far that is from the number that was
rounded, and what becomes of an integer: below `2 ^ 53` it is kept, from there on
its double stays past `2 ^ 53`.
-/

namespace TreeSchema

-- Powers are the core ones, whatever else is in scope.
attribute [local instance (high)] instPowNat

namespace Binary64

-- -----------------------------------------------------------------------------
-- The nearest whole number

theorem divHalfEven_cases (num den : Nat) :
    (divHalfEven num den = num / den ∧ 2 * (num % den) ≤ den) ∨
      (divHalfEven num den = num / den + 1 ∧ den ≤ 2 * (num % den)) := by
  simp only [divHalfEven]
  split
  · rename_i hlt
    exact .inl ⟨rfl, Nat.le_of_lt (Nat.compare_eq_lt.mp hlt)⟩
  · rename_i hgt
    exact .inr ⟨rfl, Nat.le_of_lt (Nat.compare_eq_gt.mp hgt)⟩
  · rename_i heq
    have := Nat.compare_eq_eq.mp heq
    split
    · exact .inl ⟨rfl, by omega⟩
    · exact .inr ⟨rfl, by omega⟩

theorem divHalfEven_near (num : Nat) {den : Nat} (hden : 0 < den) :
    2 * num ≤ 2 * (divHalfEven num den * den) + den ∧
      2 * (divHalfEven num den * den) ≤ 2 * num + den := by
  have hsplit : num / den * den + num % den = num := Nat.div_add_mod' num den
  have hmod : num % den < den := Nat.mod_lt num hden
  obtain ⟨hdown, hhalf⟩ | ⟨hup, hhalf⟩ := divHalfEven_cases num den
  · rw [hdown]
    omega
  · rw [hup, Nat.add_one_mul (num / den)]
    omega

theorem divHalfEven_mul (count : Nat) {den : Nat} (hden : 0 < den) :
    divHalfEven (count * den) den = count := by
  have hcompare : Ord.compare (2 * (count * den % den)) den = .lt := by
    rw [Nat.mul_mod_left]
    exact Nat.compare_eq_lt.mpr hden
  unfold divHalfEven
  rw [hcompare]
  exact Nat.mul_div_cancel count hden

-- -----------------------------------------------------------------------------
-- Rounding

/-- The exponent of the grid that a number of units is rounded to. -/
def gridScale (units : Nat) : Nat := units.log2 - 52

theorem div_grid_lt (units : Nat) : units / 2 ^ gridScale units < 2 ^ 53 := by
  rw [Nat.div_lt_iff_lt_mul (Nat.two_pow_pos _), ← Nat.pow_add]
  refine Nat.lt_of_lt_of_le Nat.lt_log2_self (Nat.pow_le_pow_right (by decide) ?_)
  unfold gridScale
  omega

theorem le_div_grid {units : Nat} (h : 52 ≤ units.log2) : 2 ^ 52 ≤ units / 2 ^ gridScale units := by
  have hne : units ≠ 0 := by
    rintro rfl
    simp at h
  rw [Nat.le_div_iff_mul_le (Nat.two_pow_pos _), ← Nat.pow_add]
  have hlog : 52 + gridScale units = units.log2 := by
    unfold gridScale
    omega
  rw [hlog]
  exact Nat.log2_self_le hne

theorem round_eq_some (negative : Bool) (num den : Nat) (hrange : (num / den).log2 ≤ 2000) :
    ∃ x, round negative num den = some x ∧ x.negative = negative ∧
      x.magnitude = divHalfEven num (den * 2 ^ gridScale (num / den)) * 2 ^ gridScale (num / den) := by
  have hscale : gridScale (num / den) ≤ 2000 := Nat.le_trans (Nat.sub_le ..) hrange
  have hquotient : num / (den * 2 ^ gridScale (num / den)) =
      num / den / 2 ^ gridScale (num / den) := (Nat.div_div_eq_div_mul ..).symm
  have hlt := div_grid_lt (num / den)
  have hle : divHalfEven num (den * 2 ^ gridScale (num / den)) ≤ 2 ^ 53 ∧
      (2 ^ 52 ≤ divHalfEven num (den * 2 ^ gridScale (num / den)) ∨ gridScale (num / den) = 0) := by
    have hcases := divHalfEven_cases num (den * 2 ^ gridScale (num / den))
    rw [hquotient] at hcases
    refine ⟨by omega, ?_⟩
    by_cases hlog : 52 ≤ (num / den).log2
    · have := le_div_grid hlog
      omega
    · exact .inr (Nat.sub_eq_zero_of_le (by omega))
  have hgrid : (num / den).log2 - 52 = gridScale (num / den) := rfl
  generalize hsignificand : divHalfEven num (den * 2 ^ gridScale (num / den)) = significand at hle ⊢
  generalize gridScale (num / den) = scale at *
  by_cases hcarry : significand = 2 ^ 53
  · refine ⟨⟨negative, 2 ^ 52, scale + 1, by omega⟩, ?_, rfl, ?_⟩
    · simp only [round, hgrid, hsignificand, hcarry, if_true]
      rw [dif_pos (by omega)]
    · simp only [magnitude]
      rw [hcarry, Nat.pow_succ]
      omega
  · refine ⟨⟨negative, significand, scale, by omega⟩, ?_, rfl, rfl⟩
    simp only [round, hgrid, hsignificand, hcarry, if_false]
    rw [dif_pos (by omega)]

-- -----------------------------------------------------------------------------
-- Integers

theorem magnitude_eq_natAbs (x : Binary64) : x.magnitude = x.units.natAbs := by
  unfold units
  split <;> simp

/-- One is `2 ^ unitBits` units. -/
@[irreducible]
def unitBits : Nat := 1074

theorem unitsPerOne_eq : unitsPerOne = 2 ^ unitBits := by
  rw [unitsPerOne, unitBits]

theorem unitsPerOne_pos : 0 < unitsPerOne := by
  rw [unitsPerOne_eq]
  exact Nat.two_pow_pos _

theorem units_eq_mul {x : Binary64} {i : Int} (hnegative : x.negative = decide (i < 0))
    (hmagnitude : x.magnitude = i.natAbs * unitsPerOne) : x.units = i * unitsPerOne := by
  unfold units
  rw [hmagnitude, hnegative]
  by_cases hi : i < 0
  · rw [decide_eq_true hi, if_pos rfl, Int.natCast_mul,
      Int.ofNat_natAbs_of_nonpos (Int.le_of_lt hi), Int.neg_mul, Int.neg_neg]
  · rw [decide_eq_false hi, if_neg Bool.false_ne_true, Int.natCast_mul,
      Int.natAbs_of_nonneg (Int.not_lt.mp hi)]

theorem magnitude_eq_mul {x : Binary64} {i : Int} (h : x.units = i * unitsPerOne) :
    x.magnitude = i.natAbs * unitsPerOne := by
  rw [magnitude_eq_natAbs, h, Int.natAbs_mul, Int.natAbs_natCast]

theorem log2_le_of_lt {units power : Nat} (h : units < 2 ^ (power + 1)) : units.log2 ≤ power := by
  by_cases hzero : units = 0
  · simp [hzero]
  · exact Nat.le_of_lt_succ ((Nat.log2_lt hzero).mpr h)

theorem mul_unitsPerOne_lt {n power : Nat} (h : n < 2 ^ (power + 1)) :
    n * unitsPerOne < 2 ^ (power + unitBits + 1) := by
  calc n * unitsPerOne
      < 2 ^ (power + 1) * unitsPerOne := Nat.mul_lt_mul_of_pos_right h unitsPerOne_pos
    _ = 2 ^ (power + unitBits + 1) := by
      rw [unitsPerOne_eq, ← Nat.pow_add, Nat.add_right_comm]

theorem le_log2_mul_unitsPerOne {n power : Nat} (h : 2 ^ power ≤ n) :
    power + unitBits ≤ (n * unitsPerOne).log2 := by
  have hpos : 0 < n := Nat.lt_of_lt_of_le (Nat.two_pow_pos _) h
  refine (Nat.le_log2 (Nat.mul_pos hpos unitsPerOne_pos).ne').mpr ?_
  rw [Nat.pow_add, unitsPerOne_eq]
  exact Nat.mul_le_mul_right _ h

theorem unitsPerOne_eq_mul {scale : Nat} (h : scale ≤ unitBits) :
    unitsPerOne = 2 ^ (unitBits - scale) * 2 ^ scale := by
  rw [← Nat.pow_add, Nat.sub_add_cancel h, unitsPerOne_eq]

theorem ofInt_eq_some {i : Int} (h : i.natAbs ≤ 2 ^ 64) :
    ∃ x, ofInt i = some x ∧ x.negative = decide (i < 0) ∧
      x.magnitude = divHalfEven (i.natAbs * unitsPerOne) (2 ^ gridScale (i.natAbs * unitsPerOne)) *
        2 ^ gridScale (i.natAbs * unitsPerOne) := by
  have hlog : (i.natAbs * unitsPerOne).log2 ≤ 64 + unitBits :=
    log2_le_of_lt (mul_unitsPerOne_lt (Nat.lt_of_le_of_lt h (by decide)))
  have hunits : i.natAbs * unitsPerOne / 1 = i.natAbs * unitsPerOne := Nat.div_one _
  have hrange : (i.natAbs * unitsPerOne / 1).log2 ≤ 2000 := by
    rw [hunits]
    exact Nat.le_trans hlog (by simp [unitBits])
  obtain ⟨x, hx, hnegative, hmagnitude⟩ :=
    round_eq_some (decide (i < 0)) (i.natAbs * unitsPerOne) 1 hrange
  rw [hunits, Nat.one_mul] at hmagnitude
  exact ⟨x, hx, hnegative, hmagnitude⟩

theorem ofInt_of_lt {i : Int} (h : i.natAbs < 2 ^ 53) :
    ∃ x, ofInt i = some x ∧ x.units = i * unitsPerOne := by
  obtain ⟨x, hx, hnegative, hmagnitude⟩ := ofInt_eq_some (i := i) (by omega)
  refine ⟨x, hx, units_eq_mul hnegative ?_⟩
  have hscale : gridScale (i.natAbs * unitsPerOne) ≤ unitBits := by
    have := log2_le_of_lt (mul_unitsPerOne_lt h)
    unfold gridScale
    omega
  rw [hmagnitude]
  generalize gridScale (i.natAbs * unitsPerOne) = scale at hscale ⊢
  rw [unitsPerOne_eq_mul hscale, ← Nat.mul_assoc, divHalfEven_mul _ (Nat.two_pow_pos _)]

theorem ofInt_of_le {i : Int} (h : 2 ^ 53 ≤ i.natAbs) (hrange : i.natAbs ≤ 2 ^ 64) :
    ∃ x, ofInt i = some x ∧ x.negative = decide (i < 0) ∧ 2 ^ 53 * unitsPerOne ≤ x.magnitude := by
  obtain ⟨x, hx, hnegative, hmagnitude⟩ := ofInt_eq_some hrange
  refine ⟨x, hx, hnegative, ?_⟩
  have hlog := le_log2_mul_unitsPerOne h
  rw [hmagnitude]
  generalize i.natAbs * unitsPerOne = units at hlog ⊢
  have hscale : 53 + unitBits ≤ 52 + gridScale units := by
    unfold gridScale
    omega
  calc 2 ^ 53 * unitsPerOne
      = 2 ^ (53 + unitBits) := by rw [Nat.pow_add, unitsPerOne_eq]
    _ ≤ 2 ^ (52 + gridScale units) := Nat.pow_le_pow_right (by decide) hscale
    _ = 2 ^ 52 * 2 ^ gridScale units := Nat.pow_add ..
    _ ≤ units / 2 ^ gridScale units * 2 ^ gridScale units :=
      Nat.mul_le_mul_right _ (le_div_grid (by omega))
    _ ≤ _ := Nat.mul_le_mul_right _ (by have := divHalfEven_cases units (2 ^ gridScale units); omega)

-- -----------------------------------------------------------------------------
-- Quotients of integers

/-- How the quotient of two integers is rounded: the grid is no coarser than the
whole numbers, and its step is below twice the distance of neighbouring
fractions with that divisor. -/
theorem div_eq_some {x y : Binary64} {n d : Nat} (hx : x.magnitude = n * unitsPerOne)
    (hy : y.magnitude = d * unitsPerOne) (hn : n < 2 ^ 53) (hpos : 0 < d) (hd : d < 2 ^ 53) :
    ∃ quotient scale, x.div y = some quotient ∧ scale ≤ unitBits ∧
      d * 2 ^ scale < 2 * unitsPerOne ∧
      quotient.magnitude = divHalfEven (n * unitsPerOne * unitsPerOne)
        (d * unitsPerOne * 2 ^ scale) * 2 ^ scale := by
  have hunits : n * unitsPerOne * unitsPerOne / (d * unitsPerOne) = n * unitsPerOne / d :=
    Nat.mul_div_mul_right _ _ unitsPerOne_pos
  have hlog : (n * unitsPerOne / d).log2 ≤ 52 + unitBits :=
    log2_le_of_lt (Nat.lt_of_le_of_lt (Nat.div_le_self ..) (mul_unitsPerOne_lt hn))
  have hrange : (x.magnitude * unitsPerOne / y.magnitude).log2 ≤ 2000 := by
    rw [hx, hy, hunits]
    exact Nat.le_trans hlog (by simp [unitBits])
  obtain ⟨quotient, hquotient, -, hmagnitude⟩ :=
    round_eq_some (x.negative != y.negative) (x.magnitude * unitsPerOne) y.magnitude hrange
  rw [hx, hy, hunits] at hmagnitude
  have hne : y.magnitude ≠ 0 := by
    rw [hy]
    exact (Nat.mul_pos hpos unitsPerOne_pos).ne'
  refine ⟨quotient, gridScale (n * unitsPerOne / d), ?_, ?_, ?_, hmagnitude⟩
  · rw [div, if_neg hne, hquotient]
  · unfold gridScale
    omega
  · by_cases hfine : 52 ≤ (n * unitsPerOne / d).log2
    · have hgrid := le_div_grid hfine
      generalize gridScale (n * unitsPerOne / d) = scale at hgrid ⊢
      rw [Nat.div_div_eq_div_mul, Nat.le_div_iff_mul_le (Nat.mul_pos hpos (Nat.two_pow_pos _))] at hgrid
      have := Nat.mul_lt_mul_of_pos_right hn unitsPerOne_pos
      omega
    · have hscale : gridScale (n * unitsPerOne / d) = 0 := by
        unfold gridScale
        omega
      have hone : 2 ^ 53 ≤ unitsPerOne := by
        rw [unitsPerOne_eq]
        exact Nat.pow_le_pow_right (by decide) (by simp [unitBits])
      rw [hscale]
      omega

theorem div_near {quotient : Binary64} {n d scale : Nat} (hpos : 0 < d)
    (hquotient : quotient.magnitude = divHalfEven (n * unitsPerOne * unitsPerOne)
      (d * unitsPerOne * 2 ^ scale) * 2 ^ scale) :
    2 * (n * unitsPerOne) ≤ 2 * (d * quotient.magnitude) + d * 2 ^ scale ∧
      2 * (d * quotient.magnitude) ≤ 2 * (n * unitsPerOne) + d * 2 ^ scale := by
  have hden : 0 < d * unitsPerOne * 2 ^ scale :=
    Nat.mul_pos (Nat.mul_pos hpos unitsPerOne_pos) (Nat.two_pow_pos _)
  obtain ⟨hlow, hhigh⟩ := divHalfEven_near (n * unitsPerOne * unitsPerOne) hden
  rw [hquotient]
  generalize divHalfEven (n * unitsPerOne * unitsPerOne) (d * unitsPerOne * 2 ^ scale) = count
    at hlow hhigh ⊢
  constructor <;> refine Nat.le_of_mul_le_mul_left ?_ unitsPerOne_pos
  · calc unitsPerOne * (2 * (n * unitsPerOne))
        = 2 * (n * unitsPerOne * unitsPerOne) := by ring
      _ ≤ _ := hlow
      _ = _ := by ring
  · calc unitsPerOne * (2 * (d * (count * 2 ^ scale)))
        = 2 * (count * (d * unitsPerOne * 2 ^ scale)) := by ring
      _ ≤ _ := hhigh
      _ = _ := by ring

theorem distanceToWhole_of_dvd {quotient : Binary64} {n d scale : Nat} (hpos : 0 < d)
    (hscale : scale ≤ unitBits)
    (hquotient : quotient.magnitude = divHalfEven (n * unitsPerOne * unitsPerOne)
      (d * unitsPerOne * 2 ^ scale) * 2 ^ scale)
    (h : d ∣ n) : quotient.distanceToWhole = 0 := by
  obtain ⟨count, rfl⟩ := h
  have hnum : d * count * unitsPerOne * unitsPerOne =
      count * 2 ^ (unitBits - scale) * (d * unitsPerOne * 2 ^ scale) := by
    calc d * count * unitsPerOne * unitsPerOne
        = d * count * unitsPerOne * (2 ^ (unitBits - scale) * 2 ^ scale) := by
          rw [← unitsPerOne_eq_mul hscale]
      _ = count * 2 ^ (unitBits - scale) * (d * unitsPerOne * 2 ^ scale) := by ring
  have hden : 0 < d * unitsPerOne * 2 ^ scale :=
    Nat.mul_pos (Nat.mul_pos hpos unitsPerOne_pos) (Nat.two_pow_pos _)
  have hmagnitude : quotient.magnitude = count * unitsPerOne := by
    rw [hquotient, hnum, divHalfEven_mul _ hden, Nat.mul_assoc, ← unitsPerOne_eq_mul hscale]
  simp [distanceToWhole, hmagnitude]

theorem le_distanceToWhole {quotient : Binary64} {n d scale : Nat} (hpos : 0 < d)
    (hstep : d * 2 ^ scale < 2 * unitsPerOne)
    (hquotient : quotient.magnitude = divHalfEven (n * unitsPerOne * unitsPerOne)
      (d * unitsPerOne * 2 ^ scale) * 2 ^ scale)
    (h : ¬d ∣ n) :
    2 * unitsPerOne ≤ 2 * (d * quotient.distanceToWhole) + d * 2 ^ scale := by
  obtain ⟨hlow, hhigh⟩ := div_near hpos hquotient
  have hparts : unitsPerOne * (quotient.magnitude / unitsPerOne) +
      quotient.magnitude % unitsPerOne = quotient.magnitude := Nat.div_add_mod ..
  have hpart : quotient.magnitude % unitsPerOne < unitsPerOne := Nat.mod_lt _ unitsPerOne_pos
  simp only [distanceToWhole]
  generalize quotient.magnitude % unitsPerOne = part at *
  generalize quotient.magnitude / unitsPerOne = whole at *
  generalize quotient.magnitude = magnitude at *
  have hmagnitude : d * magnitude = d * whole * unitsPerOne + d * part := by
    rw [← hparts]
    ring
  have hover : d * part < d * unitsPerOne := Nat.mul_lt_mul_of_pos_left hpart hpos
  -- The fraction lies strictly between the whole numbers around the quotient.
  have hbelow : d * whole < n := by
    by_contra hnot
    have hne : n ≠ d * whole := fun heq => h ⟨whole, heq⟩
    have := Nat.mul_le_mul_right unitsPerOne (show n + 1 ≤ d * whole by omega)
    rw [Nat.add_one_mul] at this
    omega
  have habove : n < d * whole + d := by
    by_contra hnot
    have hne : n ≠ d * whole + d := fun heq => h ⟨whole + 1, heq⟩
    have := Nat.mul_le_mul_right unitsPerOne (show d * whole + d + 1 ≤ n by omega)
    rw [Nat.add_one_mul, Nat.add_mul] at this
    omega
  have hafter := Nat.mul_le_mul_right unitsPerOne (Nat.succ_le_of_lt hbelow)
  have hbefore := Nat.mul_le_mul_right unitsPerOne (Nat.succ_le_of_lt habove)
  rw [Nat.succ_mul] at hafter hbefore
  rw [Nat.add_mul] at hbefore
  obtain hmin | hmin := Nat.le_total part (unitsPerOne - part)
  · rw [Nat.min_eq_left hmin]
    omega
  · rw [Nat.min_eq_right hmin, Nat.mul_sub]
    omega

theorem grid_dvd_distanceToWhole {quotient : Binary64} {count scale : Nat}
    (hscale : scale ≤ unitBits) (hquotient : quotient.magnitude = count * 2 ^ scale) :
    2 ^ scale ∣ quotient.distanceToWhole := by
  have hone : 2 ^ scale ∣ unitsPerOne := ⟨_, (unitsPerOne_eq_mul hscale).trans (Nat.mul_comm ..)⟩
  have hpart : 2 ^ scale ∣ quotient.magnitude % unitsPerOne :=
    (Nat.dvd_mod_iff hone).mpr ⟨count, hquotient.trans (Nat.mul_comm ..)⟩
  simp only [distanceToWhole]
  obtain hmin | hmin := Nat.le_total (quotient.magnitude % unitsPerOne)
    (unitsPerOne - quotient.magnitude % unitsPerOne)
  · rw [Nat.min_eq_left hmin]
    exact hpart
  · rw [Nat.min_eq_right hmin]
    exact Nat.dvd_sub hone hpart

theorem multipleTolerance_pos : 0 < Number.multipleTolerance := by
  decide +kernel

theorem multipleTolerance_le : 2 * Number.multipleTolerance ≤ 5 * 2 ^ (unitBits - 31) := by
  have hbits : unitBits - 31 = 1043 := by simp [unitBits]
  rw [hbits]
  decide +kernel

/-- What `multipleTolerance` allows is short of a fraction with such a divisor,
rounding included. Where the grid is coarse, the distance is whole steps of it;
where it is fine, it hardly adds to the distance of the fraction. -/
theorem multipleTolerance_le_distanceToWhole {quotient : Binary64} {n d scale : Nat}
    (hpos : 0 < d) (hsmall : 3 * d < 2 ^ 31) (hscale : scale ≤ unitBits)
    (hstep : d * 2 ^ scale < 2 * unitsPerOne)
    (hquotient : quotient.magnitude = divHalfEven (n * unitsPerOne * unitsPerOne)
      (d * unitsPerOne * 2 ^ scale) * 2 ^ scale)
    (h : ¬d ∣ n) : Number.multipleTolerance ≤ quotient.distanceToWhole := by
  have hdistance := le_distanceToWhole hpos hstep hquotient h
  obtain ⟨steps, hsteps⟩ := grid_dvd_distanceToWhole hscale hquotient
  have htolerance := multipleTolerance_le
  have hbits : 31 ≤ unitBits := by simp [unitBits]
  have hone : unitsPerOne = 2 ^ 31 * 2 ^ (unitBits - 31) := by
    rw [← Nat.pow_add, Nat.add_sub_cancel' hbits, unitsPerOne_eq]
  generalize quotient.distanceToWhole = distance at *
  have hfar : 6 * 2 ^ (unitBits - 31) < 2 * distance + 2 ^ scale := by
    refine Nat.lt_of_mul_lt_mul_left (a := 2 ^ 31) ?_
    calc 2 ^ 31 * (6 * 2 ^ (unitBits - 31))
        = 3 * (2 * unitsPerOne) := by rw [hone]; ring
      _ ≤ 3 * (2 * (d * distance) + d * 2 ^ scale) := Nat.mul_le_mul_left 3 hdistance
      _ = 3 * d * (2 * distance + 2 ^ scale) := by ring
      _ < 2 ^ 31 * (2 * distance + 2 ^ scale) :=
        Nat.mul_lt_mul_of_pos_right hsmall (Nat.add_pos_right _ (Nat.two_pow_pos _))
  suffices h : 5 * 2 ^ (unitBits - 31) ≤ 2 * distance by omega
  have hcases : scale ≤ unitBits - 31 ∨ scale = unitBits - 31 + 1 ∨
      unitBits - 31 + 2 ≤ scale := by omega
  obtain hfine | hmiddle | hcoarse := hcases
  · have := Nat.pow_le_pow_right (n := 2) (by decide) hfine
    omega
  · rw [hmiddle, Nat.pow_succ] at hsteps hfar
    have hmore : 2 ≤ steps := by
      by_contra hless
      have := Nat.mul_le_mul_left (2 ^ (unitBits - 31) * 2) (show steps ≤ 1 by omega)
      omega
    have := Nat.mul_le_mul_left (2 ^ (unitBits - 31) * 2) hmore
    omega
  · have hgrid := Nat.pow_le_pow_right (n := 2) (by decide) hcoarse
    rw [Nat.pow_add] at hgrid
    have hsome : 0 < steps := by
      refine Nat.pos_of_ne_zero fun hzero => ?_
      rw [hzero, Nat.mul_zero] at hsteps
      rw [hsteps] at hdistance
      omega
    have := Nat.le_mul_of_pos_right (2 ^ scale) hsome
    omega

theorem distanceToWhole_div_lt_iff {x y : Binary64} {n d : Nat}
    (hx : x.magnitude = n * unitsPerOne) (hy : y.magnitude = d * unitsPerOne)
    (hn : n < 2 ^ 53) (hpos : 0 < d) (hd : d < 2 ^ 53) (h : d ∣ n ∨ 3 * d < 2 ^ 31) :
    ∃ quotient, x.div y = some quotient ∧
      (quotient.distanceToWhole < Number.multipleTolerance ↔ d ∣ n) := by
  obtain ⟨quotient, scale, hdiv, hscale, hstep, hquotient⟩ := div_eq_some hx hy hn hpos hd
  refine ⟨quotient, hdiv, fun hnear => ?_, fun hdvd => ?_⟩
  · by_contra hnot
    have := multipleTolerance_le_distanceToWhole hpos (h.resolve_left hnot) hscale hstep hquotient
      hnot
    omega
  · rw [distanceToWhole_of_dvd hpos hscale hquotient hdvd]
    exact multipleTolerance_pos

theorem div_of_magnitude_eq_zero {x y : Binary64} (hx : x.magnitude = 0) (hy : 0 < y.magnitude) :
    ∃ quotient, x.div y = some quotient ∧ quotient.distanceToWhole = 0 := by
  obtain ⟨quotient, hquotient, -, hmagnitude⟩ :=
    round_eq_some (x.negative != y.negative) 0 y.magnitude (by simp)
  have hzero : quotient.magnitude = 0 := by
    have hden : 0 < y.magnitude * 2 ^ gridScale (0 / y.magnitude) :=
      Nat.mul_pos hy (Nat.two_pow_pos _)
    have hround := divHalfEven_mul 0 hden
    rw [Nat.zero_mul] at hround
    rw [hmagnitude, hround, Nat.zero_mul]
  refine ⟨quotient, ?_, by simp [distanceToWhole, hzero]⟩
  rw [div, if_neg hy.ne', hx, Nat.zero_mul, hquotient]

end Binary64

end TreeSchema
