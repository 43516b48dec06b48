import Mathlib.Algebra.Order.Field.Power
import Mathlib.Tactic.FieldSimp
import Mathlib.Tactic.Linarith
import Mathlib.Tactic.Positivity
import TreeSchema.Proofs.Rounding

/-!
# Shortest digits

The digits that are found for a binary64 number lie in its rounding interval:
with seventeen digits the grid is finer than the interval is wide, so the search
never comes back empty. Intervals of different magnitudes have no number in
common, so digits of one value stand for one magnitude:
`magnitude_eq_of_absValue`.
-/

namespace TreeSchema.Decimal

-- Powers are the core ones, whatever else is in scope.
attribute [local instance (high)] instPowNat

open Binary64 (unitsPerOne unitsPerOne_pos)

-- -----------------------------------------------------------------------------
-- Values
-- -----------------------------------------------------------------------------

def scaled (digits : Nat) (exponent : Int) : ℚ := digits * (10 : ℚ) ^ exponent

def absValue (d : Decimal) : ℚ := scaled d.digits d.exponent

variable {count : Nat} {power : Int}

theorem scaled_eq_mul (count : Nat) (power : Int) : scaled count power = count * scaled 1 power := by
  simp [scaled]

theorem scaled_mul_ten_pow (count places : Nat) (power : Int) :
    scaled (count * 10 ^ places) (power - places) = scaled count power := by
  unfold scaled
  rw [zpow_sub₀ (by norm_num), zpow_natCast]
  push_cast
  field_simp

def quarters (q : ℚ) : ℚ := q * quartersPerOne

theorem quartersPerOne_pos : 0 < quartersPerOne := Nat.mul_pos (by decide) unitsPerOne_pos

-- -----------------------------------------------------------------------------
-- Cross multiplication
-- -----------------------------------------------------------------------------

/-- What both sides are multiplied with. -/
def crossFactor (power : Int) : Nat := if power ≥ 0 then 1 else 10 ^ (-power).toNat

theorem crossFactor_pos (power : Int) : 0 < crossFactor power := by
  unfold crossFactor
  split
  · exact Nat.one_pos
  · exact Nat.pow_pos (by decide)

theorem sides_snd (count : Nat) (power : Int) (n : Nat) :
    (sides count power n).2 = n * crossFactor power := by
  unfold sides crossFactor
  split <;> simp

theorem sides_fst (count : Nat) (power : Int) (n : Nat) :
    ((sides count power n).1 : ℚ) = quarters (scaled count power) * crossFactor power := by
  unfold sides crossFactor quarters scaled
  generalize quartersPerOne = one
  split
  · rename_i h
    obtain ⟨k, rfl⟩ := Int.eq_ofNat_of_zero_le h
    simp
  · rename_i h
    obtain ⟨k, rfl⟩ := Int.exists_eq_neg_ofNat (Int.le_of_lt (Int.not_le.mp h))
    simp
    field_simp

theorem sides_le (count : Nat) (power : Int) (n : Nat) :
    (sides count power n).2 ≤ (sides count power n).1 ↔ (n : ℚ) ≤ quarters (scaled count power) := by
  have hfactor : (0 : ℚ) < crossFactor power := Nat.cast_pos.mpr (crossFactor_pos power)
  rw [← Nat.cast_le (α := ℚ), sides_fst, sides_snd, Nat.cast_mul, mul_le_mul_iff_of_pos_right hfactor]

theorem sides_ge (count : Nat) (power : Int) (n : Nat) :
    (sides count power n).1 ≤ (sides count power n).2 ↔ quarters (scaled count power) ≤ (n : ℚ) := by
  have hfactor : (0 : ℚ) < crossFactor power := Nat.cast_pos.mpr (crossFactor_pos power)
  rw [← Nat.cast_le (α := ℚ), sides_fst, sides_snd, Nat.cast_mul, mul_le_mul_iff_of_pos_right hfactor]

theorem sides_fst_eq_mul (count : Nat) (power : Int) (n : Nat) :
    (sides count power n).1 = count * (sides 1 power n).1 := by
  unfold sides
  split <;> simp [Nat.mul_assoc]

theorem sides_fst_congr (count : Nat) (power : Int) (n m : Nat) :
    (sides count power n).1 = (sides count power m).1 := by
  unfold sides
  split <;> rfl

theorem sides_fst_one_pos (power : Int) (n : Nat) : 0 < (sides 1 power n).1 := by
  unfold sides
  split
  · exact Nat.mul_pos (Nat.mul_pos Nat.one_pos (Nat.pow_pos (by decide))) quartersPerOne_pos
  · exact Nat.mul_pos Nat.one_pos quartersPerOne_pos

-- -----------------------------------------------------------------------------
-- The leading digit
-- -----------------------------------------------------------------------------

theorem digitCount_pos (n : Nat) : 0 < digitCount n := Nat.length_toDigits_pos

theorem lt_ten_pow_digitCount (n : Nat) : n < 10 ^ digitCount n :=
  (Nat.length_toDigits_le_iff (by decide) (digitCount_pos n)).mp (Nat.le_refl _)

theorem ten_pow_le {n : Nat} (h : 0 < n) : 10 ^ (digitCount n - 1) ≤ n := by
  by_cases hone : digitCount n = 1
  · rw [hone]
    exact h
  · have hpos := digitCount_pos n
    rw [← Nat.not_lt, ← Nat.length_toDigits_le_iff (by decide) (by omega)]
    change ¬digitCount n ≤ digitCount n - 1
    omega

theorem scaled_leadingExponent_le {n : Nat} (h : 0 < n) :
    quarters (scaled 1 (leadingExponent n)) ≤ n := by
  rw [← sides_ge]
  unfold leadingExponent sides
  split
  · rename_i hone
    have hcount := digitCount_pos (n / quartersPerOne)
    have hpower := ten_pow_le (Nat.div_pos hone quartersPerOne_pos)
    rw [Nat.le_div_iff_mul_le quartersPerOne_pos] at hpower
    rw [if_pos (by omega), Nat.one_mul]
    rwa [show ((digitCount (n / quartersPerOne) : Int) - 1).toNat =
      digitCount (n / quartersPerOne) - 1 by omega]
  · generalize hceiling : (quartersPerOne + n - 1) / n = ceiling
    have hcount := digitCount_pos (ceiling - 1)
    have hpower := lt_ten_pow_digitCount (ceiling - 1)
    rw [if_neg (by omega), Nat.one_mul, Int.neg_neg, Int.toNat_natCast]
    have hlt : (quartersPerOne + n - 1) / n < 10 ^ digitCount (ceiling - 1) + 1 := by omega
    rw [Nat.div_lt_iff_lt_mul h, Nat.add_one_mul, Nat.mul_comm] at hlt
    dsimp only
    omega

-- -----------------------------------------------------------------------------
-- Rounding intervals
-- -----------------------------------------------------------------------------

namespace RoundingInterval

/-- A number of quarter units lies between the ends, or on one if these belong to
the interval. -/
def Spans (r : RoundingInterval) (q : ℚ) : Prop :=
  if r.closed then
    ((r.centre - r.below : Nat) : ℚ) ≤ q ∧ q ≤ ((r.centre + r.above : Nat) : ℚ)
  else
    ((r.centre - r.below : Nat) : ℚ) < q ∧ q < ((r.centre + r.above : Nat) : ℚ)

variable {r : RoundingInterval} {q : ℚ}

theorem Spans.ends (h : r.Spans q) :
    ((r.centre - r.below : Nat) : ℚ) ≤ q ∧ q ≤ ((r.centre + r.above : Nat) : ℚ) := by
  unfold Spans at h
  split at h
  · exact h
  · exact ⟨h.1.le, h.2.le⟩

theorem spans_of_inside (hlow : ((r.centre - r.below : Nat) : ℚ) < q)
    (hhigh : q < ((r.centre + r.above : Nat) : ℚ)) : r.Spans q := by
  unfold Spans
  split
  · exact ⟨hlow.le, hhigh.le⟩
  · exact ⟨hlow, hhigh⟩

/-- The one interval ends before the other one begins, or where it begins if not
both ends belong to them. -/
def Before (r s : RoundingInterval) : Prop :=
  r.centre + r.above < s.centre - s.below ∨
    r.centre + r.above = s.centre - s.below ∧ ¬(r.closed = true ∧ s.closed = true)

theorem Before.not_spans {s : RoundingInterval} (h : r.Before s) (hr : r.Spans q) : ¬s.Spans q := by
  intro hs
  have hends := hs.ends.1.trans hr.ends.2
  rw [Nat.cast_le] at hends
  obtain hbefore | ⟨hmeet, hopen⟩ := h
  · omega
  · unfold Spans at hr hs
    rw [hmeet] at hr
    by_cases hclosed : r.closed = true
    · rw [if_neg fun hclosed' => hopen ⟨hclosed, hclosed'⟩] at hs
      rw [if_pos hclosed] at hr
      exact absurd hr.2 (not_le.mpr hs.1)
    · rw [if_neg hclosed] at hr
      split at hs
      · exact absurd hs.1 (not_le.mpr hr.2)
      · exact absurd hs.1.le (not_le.mpr hr.2)

theorem contains_iff : r.contains count power = true ↔ r.Spans (quarters (scaled count power)) := by
  have hfst := sides_fst_congr count power (r.centre - r.below) (r.centre + r.above)
  simp only [contains, Spans]
  split
  · rw [Bool.and_eq_true, decide_eq_true_eq, decide_eq_true_eq, sides_le, hfst, sides_ge]
  · rw [Bool.and_eq_true, decide_eq_true_eq, decide_eq_true_eq, ← Nat.not_le, sides_ge, hfst,
      ← Nat.not_le, sides_le, not_le, not_le]

theorem contains_of_nearestMultiple? (h : r.nearestMultiple? power = some count) :
    r.contains count power = true := by
  simp only [nearestMultiple?] at h
  split at h
  · cases h
  · rename_i hlow _
    exact Option.some.inj h ▸ hlow
  · rename_i _ hhigh
    exact Option.some.inj h ▸ hhigh
  · rename_i hlow hhigh
    split at h
    · exact Option.some.inj h ▸ hlow
    · exact Option.some.inj h ▸ hhigh

def lowCount (r : RoundingInterval) (power : Int) : Nat :=
  (sides 1 power r.centre).2 / (sides 1 power r.centre).1

theorem nearestMultiple?_eq_none (h : r.nearestMultiple? power = none) :
    r.contains (r.lowCount power) power = false ∧ r.contains (r.lowCount power + 1) power = false := by
  simp only [nearestMultiple?] at h
  split at h
  · rename_i hlow hhigh
    exact ⟨hlow, hhigh⟩
  · cases h
  · cases h
  · split at h <;> cases h

theorem lowCount_le (r : RoundingInterval) (power : Int) :
    quarters (scaled (r.lowCount power) power) ≤ r.centre := by
  rw [← sides_ge, sides_fst_eq_mul, sides_snd, ← sides_snd 1]
  exact Nat.div_mul_le_self ..

theorem lt_lowCount (r : RoundingInterval) (power : Int) :
    (r.centre : ℚ) < quarters (scaled (r.lowCount power + 1) power) := by
  rw [← not_le, ← sides_ge, sides_fst_eq_mul, sides_snd, ← sides_snd 1, Nat.not_le, Nat.mul_comm]
  exact Nat.lt_mul_div_succ _ (sides_fst_one_pos power r.centre)

theorem le_low_of_not_contains (h : r.contains count power = false) (habove : 0 < r.above)
    (hle : quarters (scaled count power) ≤ r.centre) :
    quarters (scaled count power) ≤ ((r.centre - r.below : Nat) : ℚ) := by
  by_contra hlow
  have hhigh : (r.centre : ℚ) < ((r.centre + r.above : Nat) : ℚ) := by
    exact_mod_cast Nat.lt_add_of_pos_right habove
  have hspans := spans_of_inside (not_le.mp hlow) (hle.trans_lt hhigh)
  rw [contains_iff.mpr hspans] at h
  cases h

theorem high_le_of_not_contains (h : r.contains count power = false)
    (hlt : (r.centre : ℚ) < quarters (scaled count power)) :
    ((r.centre + r.above : Nat) : ℚ) ≤ quarters (scaled count power) := by
  by_contra hhigh
  have hlow : ((r.centre - r.below : Nat) : ℚ) ≤ r.centre := Nat.cast_le.mpr (Nat.sub_le ..)
  have hspans := spans_of_inside (hlow.trans_lt hlt) (not_le.mp hhigh)
  rw [contains_iff.mpr hspans] at h
  cases h

/-- A grid that is finer than the interval is wide meets it next to the
centre. -/
theorem isSome_nearestMultiple? (habove : 0 < r.above) (hle : r.below ≤ r.centre)
    (hstep : quarters (scaled 1 power) < r.below + r.above) :
    (r.nearestMultiple? power).isSome := by
  by_contra hnone
  obtain ⟨hlow, hhigh⟩ := nearestMultiple?_eq_none (Option.not_isSome_iff_eq_none.mp hnone)
  have hbelow := le_low_of_not_contains hlow habove (r.lowCount_le power)
  have habove := high_le_of_not_contains hhigh (r.lt_lowCount power)
  rw [scaled_eq_mul, quarters] at hbelow habove
  rw [quarters] at hstep
  push_cast [Nat.cast_sub hle] at hbelow habove
  linarith

theorem search_contains {leading : Int} {remaining places place : Nat} (hfrom : places ≤ place)
    (hto : place < places + remaining) (h : (r.nearestMultiple? (leading - place)).isSome) :
    r.contains (r.search leading remaining places).1 (r.search leading remaining places).2 = true := by
  induction remaining generalizing places with
  | zero => omega
  | succ remaining ih =>
    rw [search]
    split
    · exact contains_of_nearestMultiple? ‹_›
    · rename_i hnone
      refine ih (Nat.lt_of_le_of_ne hfrom ?_) (by omega)
      rintro rfl
      rw [hnone] at h
      cases h

end RoundingInterval

-- -----------------------------------------------------------------------------
-- The interval of a number
-- -----------------------------------------------------------------------------

open RoundingInterval (of)

variable {x y : Binary64}

theorem significand_pos (h : x.magnitude ≠ 0) : 0 < x.significand :=
  Nat.pos_of_mul_pos_right (Nat.pos_of_ne_zero h)

theorem above_pos (x : Binary64) : 0 < (of x).above := by
  have := Nat.two_pow_pos x.scale
  unfold of
  dsimp only
  omega

theorem below_lt_centre (h : x.magnitude ≠ 0) : (of x).below < (of x).centre := by
  have hpower := Nat.two_pow_pos x.scale
  have hle := Nat.mul_le_mul_right (2 ^ x.scale) (significand_pos h)
  unfold of Binary64.magnitude
  dsimp only
  split <;> omega

theorem centre_lt (x : Binary64) : (of x).centre < ((of x).below + (of x).above) * 10 ^ 16 := by
  have hpower := Nat.two_pow_pos x.scale
  have hlt := x.canonical.1
  have hle := Nat.mul_le_mul_right (2 ^ x.scale) (Nat.le_sub_one_of_lt hlt)
  unfold of Binary64.magnitude
  dsimp only
  split
  · rename_i hleast
    rw [hleast.1]
    omega
  · omega

theorem trim_scaled (limit : Nat) (digits : Nat) (exponent : Int) :
    scaled (trim limit (digits, exponent)).1 (trim limit (digits, exponent)).2 =
      scaled digits exponent := by
  induction limit generalizing digits exponent with
  | zero => rfl
  | succ limit ih =>
    rw [trim]
    split
    · rename_i hzero
      have hten := scaled_mul_ten_pow (digits / 10) 1 (exponent + 1)
      rw [ih, ← hten]
      congr 1
      · omega
      · omega
    · rfl

theorem shortest_spans (h : x.magnitude ≠ 0) : (of x).Spans (quarters (shortest x).absValue) := by
  have hcentre : 0 < (of x).centre := Nat.mul_pos (by decide) (Nat.pos_of_ne_zero h)
  have hgrid : ((of x).nearestMultiple? (leadingExponent (of x).centre - (16 : Nat))).isSome := by
    refine RoundingInterval.isSome_nearestMultiple? (above_pos x) (below_lt_centre h).le ?_
    have hleading := scaled_leadingExponent_le hcentre
    have hwidth : ((of x).centre : ℚ) < ((of x).below + (of x).above) * 10 ^ 16 := by
      exact_mod_cast centre_lt x
    rw [← scaled_mul_ten_pow 1 16, scaled_eq_mul, quarters, Nat.one_mul] at hleading
    rw [quarters]
    generalize scaled 1 (leadingExponent (of x).centre - (16 : Nat)) = step at hleading ⊢
    push_cast at hleading
    linarith
  have hlast : (16 : Nat) < 0 + 17 := by decide
  have hcontains := RoundingInterval.search_contains (Nat.zero_le 16) hlast hgrid
  rw [RoundingInterval.contains_iff] at hcontains
  unfold shortest absValue
  rw [if_neg h]
  dsimp only
  rw [trim_scaled]
  exact hcontains

-- -----------------------------------------------------------------------------
-- Different magnitudes
-- -----------------------------------------------------------------------------

theorem magnitude_add_le {count : Nat} (h : x.significand + count ≤ 2 ^ 53) :
    x.magnitude + count * 2 ^ x.scale ≤ 2 ^ 53 * 2 ^ x.scale := by
  rw [Binary64.magnitude, ← Nat.add_mul]
  exact Nat.mul_le_mul_right _ h

theorem le_magnitude {count : Nat} (h : count ≤ x.significand) :
    count * 2 ^ x.scale ≤ x.magnitude :=
  Nat.mul_le_mul_right _ h

theorem two_mul_pow_le {a b : Nat} (h : a < b) : 2 * 2 ^ a ≤ 2 ^ b := by
  rw [Nat.mul_comm, ← Nat.pow_succ]
  exact Nat.pow_le_pow_right (by decide) h

theorem le_significand (h : 0 < x.scale) : 2 ^ 52 ≤ x.significand :=
  x.canonical.2.2.resolve_right (Nat.ne_of_gt h)

theorem scale_le_of_lt (h : x.magnitude < y.magnitude) : x.scale ≤ y.scale := by
  by_contra hscale
  have hpower := two_mul_pow_le (Nat.not_le.mp hscale)
  have hx := le_magnitude (le_significand (Nat.zero_lt_of_lt (Nat.not_le.mp hscale)))
  have hy := magnitude_add_le (show y.significand + 1 ≤ 2 ^ 53 from y.canonical.1)
  omega

theorem before_of_scale_lt (hscale : x.scale < y.scale) : (of x).Before (of y) := by
  have hx := magnitude_add_le (show x.significand + 1 ≤ 2 ^ 53 from x.canonical.1)
  have hpositive := Nat.two_pow_pos x.scale
  have hpower := two_mul_pow_le hscale
  have hleast := le_significand (Nat.zero_lt_of_lt hscale)
  simp only [RoundingInterval.Before, of, decide_eq_true_eq]
  split
  · -- The greater number is a power of two: below it the grid is finer.
    have hy := le_magnitude hleast
    refine (Nat.lt_or_eq_of_le ?_).imp_right fun heq => ⟨heq, ?_⟩
    · omega
    · rintro ⟨heven, -⟩
      have hodd : x.significand + 2 ≤ 2 ^ 53 := by
        have := x.canonical.1
        omega
      have hx' := magnitude_add_le hodd
      omega
  · have hy := le_magnitude (show 2 ^ 52 + 1 ≤ y.significand by omega)
    left
    omega

theorem before_of_scale_eq (hscale : x.scale = y.scale) (hlt : x.significand < y.significand) :
    (of x).Before (of y) := by
  have hpositive := Nat.two_pow_pos x.scale
  obtain ⟨gap, hgap⟩ := Nat.exists_eq_add_of_lt hlt
  have hy : y.magnitude = x.magnitude + gap * 2 ^ x.scale + 2 ^ x.scale := by
    rw [Binary64.magnitude, Binary64.magnitude, ← hscale, hgap]
    ring
  simp only [RoundingInterval.Before, of, decide_eq_true_eq, ← hscale]
  split
  · left
    omega
  · refine (Nat.lt_or_eq_of_le ?_).imp_right fun heq => ⟨heq, ?_⟩
    · omega
    · rintro ⟨heven, heven'⟩
      -- Neighbours meet halfway; one of the two is odd.
      have hnone : gap * 2 ^ x.scale = 0 := by omega
      have := (Nat.mul_eq_zero.mp hnone).resolve_right hpositive.ne'
      omega

theorem of_before (h : x.magnitude < y.magnitude) : (of x).Before (of y) := by
  obtain hscale | hscale := Nat.lt_or_eq_of_le (scale_le_of_lt h)
  · exact before_of_scale_lt hscale
  · refine before_of_scale_eq hscale ?_
    rw [Binary64.magnitude, Binary64.magnitude, hscale] at h
    exact Nat.lt_of_mul_lt_mul_right h

theorem magnitude_le_of_spans {q : ℚ} (hx : (of x).Spans q) (hy : (of y).Spans q) :
    y.magnitude ≤ x.magnitude := by
  by_contra hlt
  exact (of_before (Nat.not_le.mp hlt)).not_spans hx hy

theorem magnitude_eq_of_spans {q : ℚ} (hx : (of x).Spans q) (hy : (of y).Spans q) :
    x.magnitude = y.magnitude :=
  Nat.le_antisymm (magnitude_le_of_spans hy hx) (magnitude_le_of_spans hx hy)

theorem absValue_eq_zero (h : x.magnitude = 0) : (shortest x).absValue = 0 := by
  simp [shortest, h, absValue, scaled]

theorem absValue_pos (h : x.magnitude ≠ 0) : 0 < (shortest x).absValue := by
  have hlow : 0 < (of x).centre - (of x).below := Nat.sub_pos_of_lt (below_lt_centre h)
  have hquarters := (Nat.cast_pos.mpr hlow).trans_le (shortest_spans h).ends.1
  exact pos_of_mul_pos_left hquarters (Nat.cast_nonneg _)

theorem magnitude_eq_of_absValue (h : (shortest x).absValue = (shortest y).absValue) :
    x.magnitude = y.magnitude := by
  by_cases hx : x.magnitude = 0
  · by_contra hy
    exact (absValue_pos (hx ▸ Ne.symm hy)).ne (h ▸ absValue_eq_zero hx).symm
  · by_cases hy : y.magnitude = 0
    · exact absurd (h.trans (absValue_eq_zero hy)) (absValue_pos hx).ne.symm
    · exact magnitude_eq_of_spans (shortest_spans hx) (h ▸ shortest_spans hy)

end TreeSchema.Decimal
