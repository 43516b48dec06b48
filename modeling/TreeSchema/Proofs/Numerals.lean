import Mathlib.Data.List.TakeWhile
import TreeSchema.Proofs.Shortest
import TreeSchema.Yaml.Resolution

/-!
# Texts of numbers

The text of a double is read back as a numeral of the value that was laid out,
and the text of an integer as that integer. So different numbers have different
texts, the two zeros of one kind apart: `Numeric.sameKey_of_text`.
-/

namespace TreeSchema

-- -----------------------------------------------------------------------------
-- Digits
-- -----------------------------------------------------------------------------

namespace Yaml

def AllDigits (text : List Char) : Prop := ∀ c ∈ text, c.isDigit = true

variable {text whole fraction rest : List Char} {negative : Bool} {c : Char}

theorem AllDigits.append (hwhole : AllDigits whole) (hfraction : AllDigits fraction) :
    AllDigits (whole ++ fraction) := by
  intro c hmem
  exact (List.mem_append.mp hmem).elim (hwhole c) (hfraction c)

theorem AllDigits.take (htext : AllDigits text) {count : Nat} : AllDigits (text.take count) :=
  fun c hmem => htext c (List.mem_of_mem_take hmem)

theorem AllDigits.drop (htext : AllDigits text) {count : Nat} : AllDigits (text.drop count) :=
  fun c hmem => htext c (List.mem_of_mem_drop hmem)

theorem allDigits_toDigits (n : Nat) : AllDigits (Nat.toDigits 10 n) := fun _ hmem =>
  Nat.isDigit_of_mem_toDigits (by decide) (by decide) hmem

theorem allDigits_zeros (n : Nat) : AllDigits (Decimal.zeros n) := by
  intro c hmem
  obtain rfl := List.eq_of_mem_replicate hmem
  rfl

theorem toNat_lt_of_isDigit (h : c.isDigit = true) : c.toNat - 0x30 < 10 := by
  simp only [Char.isDigit, Bool.and_eq_true, decide_eq_true_eq, ge_iff_le, UInt32.le_iff_toNat_le] at h
  have : c.toNat ≤ 0x39 := h.2
  omega

theorem foldlM_eq_some {α β : Type} {xs : List α} {f : β → α → Option β} {g : β → α → β}
    (h : ∀ b, ∀ x ∈ xs, f b x = some (g b x)) (b : β) : xs.foldlM f b = some (xs.foldl g b) := by
  induction xs generalizing b with
  | nil => rfl
  | cons x xs ih =>
    rw [List.foldlM_cons, h b x List.mem_cons_self]
    exact ih (fun b x hmem => h b x (List.mem_cons_of_mem _ hmem)) _

theorem ofDigits?_eq (htext : AllDigits text) (hne : text ≠ []) :
    ofDigits? 10 text = some (Nat.ofDigitChars 10 text 0) := by
  have hguard : (guard (!text.isEmpty) : Option Unit) = some () := by simp [hne]
  rw [ofDigits?, hguard]
  refine foldlM_eq_some (fun value c hmem => ?_) 0
  have hdigit := htext c hmem
  simp [hdigit, guard, toNat_lt_of_isDigit hdigit]

section Reading

variable (hwhole : AllDigits whole) (hrest : ∀ c ∈ rest.head?, c.isDigit = false)

include hwhole hrest

theorem takeWhile_digits : (whole ++ rest).takeWhile Char.isDigit = whole := by
  rw [List.takeWhile_append_of_pos hwhole]
  cases rest with
  | nil => simp
  | cons c rest => simp [hrest c rfl]

theorem dropWhile_digits : (whole ++ rest).dropWhile Char.isDigit = rest := by
  rw [List.dropWhile_append_of_pos hwhole]
  cases rest with
  | nil => rfl
  | cons c rest => simp [hrest c rfl]

end Reading

theorem decimal?_pointed (hwhole : AllDigits whole) (hfraction : AllDigits fraction)
    (hne : fraction ≠ []) :
    decimal? negative (whole ++ '.' :: fraction) =
      some ⟨negative, Nat.ofDigitChars 10 (whole ++ fraction) 0, -fraction.length⟩ := by
  have hpoint : ∀ c ∈ ('.' :: fraction).head?, c.isDigit = false := by simp
  simp [decimal?, takeWhile_digits hwhole hpoint, dropWhile_digits hwhole hpoint,
    List.takeWhile_eq_self_iff.mpr hfraction, List.dropWhile_eq_nil_iff.mpr hfraction,
    ofDigits?_eq (hwhole.append hfraction) (by simp [hne])]

def signed (plus : Bool) (exponent : Int) : List Char :=
  (if exponent < 0 then ['-'] else if plus then ['+'] else []) ++ Nat.toDigits 10 exponent.natAbs

def pointed (fraction : List Char) : List Char := if fraction = [] then [] else '.' :: fraction

theorem withoutSign_of_allDigits (htext : AllDigits text) : withoutSign text = text := by
  unfold withoutSign
  split
  · cases htext '+' List.mem_cons_self
  · cases htext '-' List.mem_cons_self
  · rfl

theorem head?_ne_minus (htext : AllDigits text) : text.head? ≠ some '-' := by
  intro hhead
  cases htext '-' (List.mem_of_mem_head? hhead)

theorem withoutSign_signed (plus : Bool) (exponent : Int) :
    withoutSign (signed plus exponent) = Nat.toDigits 10 exponent.natAbs := by
  unfold signed
  split
  · rfl
  · split
    · rfl
    · exact withoutSign_of_allDigits (allDigits_toDigits _)

theorem head?_signed (plus : Bool) (exponent : Int) :
    (signed plus exponent).head? = some '-' ↔ exponent < 0 := by
  unfold signed
  split
  · simp [*]
  · split
    · simp [*]
    · simp [head?_ne_minus (allDigits_toDigits _), *]

theorem decimal?_exponent {plus : Bool} {exponent : Int} (hwhole : AllDigits whole)
    (hfraction : AllDigits fraction) (hne : whole ≠ []) :
    decimal? negative (whole ++ pointed fraction ++ 'e' :: signed plus exponent) =
      some ⟨negative, Nat.ofDigitChars 10 (whole ++ fraction) 0, exponent - fraction.length⟩ := by
  have hmagnitude := ofDigits?_eq (allDigits_toDigits exponent.natAbs) Nat.toDigits_ne_nil
  rw [Nat.ofDigitChars_ten_toDigits] at hmagnitude
  have hvalue : (if exponent < 0 then -|exponent| else |exponent|) = exponent := by
    split
    · rw [abs_of_neg ‹_›, Int.neg_neg]
    · rw [abs_of_nonneg (Int.not_lt.mp ‹_›)]
  have hletter : ∀ c ∈ ('e' :: signed plus exponent).head?, c.isDigit = false := by simp
  by_cases hempty : fraction = []
  · subst hempty
    simp [decimal?, pointed, takeWhile_digits hwhole hletter, dropWhile_digits hwhole hletter,
      ofDigits?_eq hwhole hne, withoutSign_signed, head?_signed, hmagnitude, hvalue]
  · have hdigits := ofDigits?_eq (hwhole.append hfraction) (by simp [hne])
    have hpoint : ∀ c ∈ ('.' :: (fraction ++ 'e' :: signed plus exponent)).head?,
        c.isDigit = false := by simp
    simp [decimal?, pointed, hempty, takeWhile_digits hwhole hpoint, dropWhile_digits hwhole hpoint,
      takeWhile_digits hfraction hletter, dropWhile_digits hfraction hletter, hdigits,
      withoutSign_signed, head?_signed, hmagnitude, hvalue]

end Yaml

-- -----------------------------------------------------------------------------
-- Doubles
-- -----------------------------------------------------------------------------

namespace Decimal

open Yaml (AllDigits allDigits_toDigits allDigits_zeros pointed signed)

/-- The text of a number without sign that is written with a point or an
exponent. -/
inductive Written (plus : Bool) : List Char → ℚ → Prop
  | pointed {whole fraction : List Char} :
      AllDigits whole → AllDigits fraction → fraction ≠ [] →
      Written plus (whole ++ '.' :: fraction)
        (scaled (Nat.ofDigitChars 10 (whole ++ fraction) 0) (-fraction.length))
  | exponent {whole fraction : List Char} {exponent : Int} :
      AllDigits whole → AllDigits fraction → whole ≠ [] →
      Written plus (whole ++ pointed fraction ++ 'e' :: signed plus exponent)
        (scaled (Nat.ofDigitChars 10 (whole ++ fraction) 0) (exponent - fraction.length))

variable {plus : Bool} {text : List Char} {q q' : ℚ}

theorem Written.decimal? (h : Written plus text q) (negative : Bool) :
    ∃ numeral : Decimal, Yaml.decimal? negative text = some numeral ∧
      numeral.negative = negative ∧ numeral.absValue = q := by
  cases h with
  | pointed hwhole hfraction hne =>
    exact ⟨_, Yaml.decimal?_pointed hwhole hfraction hne, rfl, rfl⟩
  | exponent hwhole hfraction hne =>
    exact ⟨_, Yaml.decimal?_exponent hwhole hfraction hne, rfl, rfl⟩

theorem Written.ne_none (h : Written plus text q) : Yaml.decimal? false text ≠ none := by
  obtain ⟨_, hread, -⟩ := h.decimal? false
  rw [hread]
  exact Option.some_ne_none _

theorem Written.unique (h : Written plus text q) (h' : Written plus text q') : q = q' := by
  obtain ⟨d, hread, -, rfl⟩ := h.decimal? false
  obtain ⟨d', hread', -, rfl⟩ := h'.decimal? false
  rw [hread] at hread'
  rw [Option.some.inj hread']

theorem Written.not_allDigits (h : Written plus text q) : ¬AllDigits text := by
  intro hdigits
  cases h with
  | pointed => cases hdigits '.' (by simp)
  | exponent => cases hdigits 'e' (by simp)

theorem leading_eq {d : Decimal} (h : d.digits = 0 → d.exponent = 0) :
    (if d.digits = 0 then (0 : Int) else d.exponent + (Nat.toDigits 10 d.digits).length - 1) =
      d.exponent + (Nat.toDigits 10 d.digits).length - 1 := by
  split
  · rename_i hzero
    simp [hzero, h hzero]
  · rfl

theorem ofDigitChars_zeros (text : List Char) (count : Nat) :
    Nat.ofDigitChars 10 (text ++ zeros count) 0 = Nat.ofDigitChars 10 text 0 * 10 ^ count := by
  rw [zeros, Nat.ofDigitChars_append, Nat.ofDigitChars_replicate_zero, Nat.mul_comm]

theorem ofDigitChars_zeros_append (count : Nat) (text : List Char) :
    Nat.ofDigitChars 10 (zeros count ++ text) 0 = Nat.ofDigitChars 10 text 0 := by
  rw [zeros, Nat.ofDigitChars_append, Nat.ofDigitChars_replicate_zero, Nat.mul_zero]

section Layout

variable {d : Decimal} {digits whole fraction : List Char}

theorem Written.of_pointed (hwhole : AllDigits whole) (hfraction : AllDigits fraction)
    (hne : fraction ≠ []) (hread : Nat.ofDigitChars 10 (whole ++ fraction) 0 = d.digits)
    (hexponent : -(fraction.length : Int) = d.exponent) :
    Written plus (whole ++ '.' :: fraction) d.absValue := by
  rw [absValue, ← hread, ← hexponent]
  exact .pointed hwhole hfraction hne

theorem Written.of_exponent {leading : Int} (hwhole : AllDigits whole) (hfraction : AllDigits fraction)
    (hne : whole ≠ []) (hread : Nat.ofDigitChars 10 (whole ++ fraction) 0 = d.digits)
    (hexponent : leading - fraction.length = d.exponent) :
    Written plus (whole ++ Yaml.pointed fraction ++ 'e' :: signed plus leading) d.absValue := by
  rw [absValue, ← hread, ← hexponent]
  exact .exponent hwhole hfraction hne

theorem Written.of_whole (hdigits : AllDigits digits)
    (hread : Nat.ofDigitChars 10 digits 0 = d.digits) (hexponent : 0 ≤ d.exponent) :
    Written plus (digits ++ zeros d.exponent.toNat ++ '.' :: zeros 1) d.absValue := by
  have hplaces := scaled_mul_ten_pow d.digits (d.exponent.toNat + 1) d.exponent
  have hpower : d.exponent - (d.exponent.toNat + 1 : Nat) = -(zeros 1).length := by
    simp [zeros]
    omega
  rw [absValue, ← hplaces, hpower, Nat.pow_add, ← Nat.mul_assoc, ← hread, ← ofDigitChars_zeros,
    ← ofDigitChars_zeros]
  exact .pointed (hdigits.append (allDigits_zeros _)) (allDigits_zeros 1) (by simp [zeros])

theorem layout_written (style : Style) (h : d.digits = 0 → d.exponent = 0) :
    ∃ body, layout style d = (if d.negative then ['-'] else []) ++ body ∧
      Written style.plusSign body d.absValue := by
  have hdigits := allDigits_toDigits d.digits
  have hne : Nat.toDigits 10 d.digits ≠ [] := Nat.toDigits_ne_nil
  have hread : Nat.ofDigitChars 10 (Nat.toDigits 10 d.digits) 0 = d.digits :=
    Nat.ofDigitChars_ten_toDigits
  simp only [layout, leading_eq h]
  generalize Nat.toDigits 10 d.digits = digits at *
  generalize (if d.negative = true then ['-'] else []) = sign
  split
  · split
    · rename_i hexponent
      refine ⟨digits ++ zeros d.exponent.toNat ++ '.' :: zeros 1, by simp [zeros], ?_⟩
      exact .of_whole hdigits hread hexponent
    · split
      · rename_i hleading
        generalize hcount : (-(d.exponent + (digits.length : Int) - 1)).toNat - 1 = count
        refine ⟨zeros 1 ++ '.' :: (zeros count ++ digits), by simp [zeros], ?_⟩
        refine .of_pointed (allDigits_zeros 1) ((allDigits_zeros _).append hdigits) (by simp [hne]) ?_ ?_
        · rw [ofDigitChars_zeros_append, ofDigitChars_zeros_append, hread]
        · simp [zeros]
          omega
      · rename_i hexponent hleading
        generalize hplaces : (d.exponent + (digits.length : Int) - 1).toNat + 1 = places
        have hfraction : digits.drop places ≠ [] := by
          rw [Ne, List.drop_eq_nil_iff]
          omega
        refine ⟨digits.take places ++ '.' :: digits.drop places, by simp, ?_⟩
        refine .of_pointed hdigits.take hdigits.drop hfraction ?_ ?_
        · rw [List.take_append_drop, hread]
        · rw [List.length_drop]
          omega
  · have hlength := List.length_pos_iff.mpr hne
    refine ⟨digits.take 1 ++ pointed (digits.drop 1) ++
      'e' :: signed style.plusSign (d.exponent + digits.length - 1), ?_, ?_⟩
    · simp only [signed, List.append_assoc, List.cons_append, List.nil_append,
        List.append_cancel_left_eq]
      cases digits.drop 1 <;> rfl
    · refine .of_exponent hdigits.take hdigits.drop (by simp [hne]) ?_ ?_
      · rw [List.take_append_drop, hread]
      · rw [List.length_drop]
        omega

end Layout

theorem shortest_negative (x : Binary64) : (shortest x).negative = x.negative := by
  unfold shortest
  split <;> rfl

theorem shortest_exponent {x : Binary64} (h : (shortest x).digits = 0) : (shortest x).exponent = 0 := by
  by_cases hx : x.magnitude = 0
  · simp [shortest, hx]
  · have hpos := absValue_pos hx
    simp [absValue, scaled, h] at hpos

theorem render_written (style : Style) (x : Binary64) :
    ∃ body, (render style x).toList = (if x.negative then ['-'] else []) ++ body ∧
      Written style.plusSign body (shortest x).absValue := by
  rw [render, String.toList_ofList, ← shortest_negative]
  exact layout_written style shortest_exponent

end Decimal

-- -----------------------------------------------------------------------------
-- Numbers
-- -----------------------------------------------------------------------------

namespace Yaml

theorem decimal?_minus : decimal? negative ('-' :: rest) = none := by
  simp [decimal?, ofDigits?]

theorem signed_inj (negative negative' : Bool) {body body' : List Char} (hbody : body.head? ≠ some '-')
    (hbody' : body'.head? ≠ some '-')
    (h : (if negative then ['-'] else []) ++ body = (if negative' then ['-'] else []) ++ body') :
    negative = negative' ∧ body = body' := by
  cases negative <;> cases negative'
  · exact ⟨rfl, h⟩
  · obtain rfl : body = '-' :: body' := h
    exact absurd rfl hbody
  · obtain rfl : '-' :: body = body' := h
    exact absurd rfl hbody'
  · exact ⟨rfl, (List.cons.inj h).2⟩

theorem toList_toString (i : Int) :
    (toString i).toList = (if decide (i < 0) then ['-'] else []) ++ Nat.toDigits 10 i.natAbs := by
  cases i with
  | ofNat n => simp [Int.toString_eq_repr, Int.repr]
  | negSucc n => simp [Int.toString_eq_repr, Int.repr]

namespace Numeric

inductive Bare : Numeric → Bool → List Char → Prop
  | integer {i : Int} : Bare (.finite (.integer i)) (decide (i < 0)) (Nat.toDigits 10 i.natAbs)
  | double {x : Binary64} {body : List Char} :
      Decimal.Written style.plusSign body (Decimal.shortest x).absValue →
      Bare (.finite (.double x)) x.negative body
  | infinite {negative : Bool} : Bare (.infinite negative) negative ".inf".toList
  | undefined : Bare .undefined false ".nan".toList

theorem exists_bare (n : Numeric) :
    ∃ negative body, Bare n negative body ∧
      n.text.toList = (if negative then ['-'] else []) ++ body := by
  cases n with
  | finite number =>
    cases number with
    | integer i => exact ⟨_, _, .integer, toList_toString i⟩
    | double x =>
      obtain ⟨body, htext, hwritten⟩ := Decimal.render_written style x
      exact ⟨_, body, .double hwritten, htext⟩
  | infinite negative => exact ⟨negative, _, .infinite, by cases negative <;> rfl⟩
  | undefined => exact ⟨_, _, .undefined, rfl⟩

variable {n m : Numeric} {negative' : Bool} {body body' : List Char}

theorem Bare.head?_ne (h : Bare n negative body) : body.head? ≠ some '-' := by
  cases h with
  | integer => exact head?_ne_minus (allDigits_toDigits _)
  | double hwritten =>
    intro hhead
    obtain ⟨rest, rfl⟩ := List.head?_eq_some_iff.mp hhead
    obtain ⟨_, hread, -⟩ := hwritten.decimal? false
    rw [decimal?_minus] at hread
    cases hread
  | _ => decide

theorem not_allDigits_point {rest : List Char} : ¬AllDigits ('.' :: rest) := fun hdigits =>
  Bool.false_ne_true (hdigits '.' List.mem_cons_self)

theorem integer_eq_of_digits {i j : Int} (hsign : decide (i < 0) = decide (j < 0))
    (hdigits : Nat.toDigits 10 i.natAbs = Nat.toDigits 10 j.natAbs) : i = j := by
  have hread := congrArg (Nat.ofDigitChars 10 · 0) hdigits
  simp only [Nat.ofDigitChars_ten_toDigits] at hread
  rw [decide_eq_decide] at hsign
  omega

theorem compare_eq_of_absValue {x y : Binary64} (hsign : x.negative = y.negative)
    (hvalue : (Decimal.shortest x).absValue = (Decimal.shortest y).absValue) :
    x.compare y = .eq := by
  have hmagnitude := Decimal.magnitude_eq_of_absValue hvalue
  have hunits : x.units = y.units := by rw [Binary64.units, Binary64.units, hsign, hmagnitude]
  rw [Binary64.compare, hunits]
  exact Std.ReflCmp.compare_self

theorem Bare.sameKey (h : Bare n negative body) (h' : Bare m negative' body')
    (hsign : negative = negative') (hbody : body = body') : n.sameKey m = true := by
  cases h with
  | @integer i =>
    have hdigits : AllDigits body' := hbody ▸ allDigits_toDigits i.natAbs
    cases h' with
    | integer => exact decide_eq_true (integer_eq_of_digits hsign hbody)
    | double hwritten => exact absurd hdigits hwritten.not_allDigits
    | _ => exact absurd hdigits not_allDigits_point
  | double hwritten =>
    rw [hbody] at hwritten
    cases h' with
    | integer => exact absurd (allDigits_toDigits _) hwritten.not_allDigits
    | double hwritten' => exact beq_iff_eq.mpr (compare_eq_of_absValue hsign (hwritten.unique hwritten'))
    | _ => exact absurd rfl hwritten.ne_none
  | infinite =>
    cases h' with
    | integer => exact absurd (hbody ▸ allDigits_toDigits _) not_allDigits_point
    | double hwritten => exact absurd rfl (hbody ▸ hwritten).ne_none
    | infinite => exact decide_eq_true hsign
    | undefined => cases hbody
  | undefined =>
    cases h' with
    | integer => exact absurd (hbody ▸ allDigits_toDigits _) not_allDigits_point
    | double hwritten => exact absurd rfl (hbody ▸ hwritten).ne_none
    | infinite => cases hbody
    | undefined => rfl

theorem sameKey_of_text (h : n.text = m.text) : n.sameKey m = true := by
  obtain ⟨negative, body, hbare, htext⟩ := n.exists_bare
  obtain ⟨negative', body', hbare', htext'⟩ := m.exists_bare
  rw [h, htext'] at htext
  obtain ⟨hsign, hbody⟩ := signed_inj _ _ hbare'.head?_ne hbare.head?_ne htext
  exact hbare.sameKey hbare' hsign.symm hbody.symm

theorem text_ne_bool (n : Numeric) (b : Bool) : n.text ≠ if b then "true" else "false" := by
  intro heq
  obtain ⟨negative, body, hbare, htext⟩ := n.exists_bare
  have hword : (if b then "true" else "false").toList.head? ≠ some '-' := by cases b <;> decide
  rw [heq] at htext
  obtain ⟨-, hbody⟩ := signed_inj false negative hword hbare.head?_ne htext
  cases hbare with
  | integer =>
    have hdigits : AllDigits (if b then "true" else "false").toList := hbody ▸ allDigits_toDigits _
    cases b <;> exact absurd (hdigits 'e' (by decide)) (by decide)
  | double hwritten =>
    have hread := (hbody ▸ hwritten).ne_none
    cases b <;> exact hread rfl
  | _ => cases b <;> cases hbody

end Numeric

end Yaml

end TreeSchema
