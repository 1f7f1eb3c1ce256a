import FilterSql.Binary64.Basic
import Mathlib.Algebra.Order.Field.Basic
import Mathlib.Algebra.Order.Ring.Abs
import Mathlib.Data.Rat.Cast.Order
import Mathlib.Tactic.FieldSimp
import Mathlib.Tactic.Linarith
import Mathlib.Tactic.NormNum
import Mathlib.Tactic.Positivity
import Mathlib.Tactic.Ring

/-!
# `FilterSql.Proofs.Binary64.Rounding`: how far rounding goes

Every operation on doubles is exact arithmetic followed by one rounding.
`Binary64.value` is the absolute value as a rational number, and
`Binary64.Rounds x q` says how far `x` may be from the exact result `q`:
by half a unit in the last place, which is at most `q / 2 ^ 53` unless
`x` is so small that its last place is the least positive double. Whole
numbers below `2 ^ 53` are not rounded at all
(`Binary64.value_of_ofRatio?`).
-/

set_option autoImplicit false

namespace FilterSql.Binary64

/-! ### Rounding to a natural number -/

/-- The nearest natural number is at most a half away. -/
theorem roundHalfEven_near (num : Nat) {den : Nat} (hden : 0 < den) :
    2 * (roundHalfEven num den * den) ≤ 2 * num + den ∧
      2 * num ≤ 2 * (roundHalfEven num den * den) + den := by
  have hnum : num / den * den + num % den = num := Nat.div_add_mod' num den
  have hsucc : (num / den + 1) * den = num / den * den + den := Nat.succ_mul ..
  unfold roundHalfEven
  -- The remainder decides which way to go; in the middle both ways are a half.
  split
  · omega
  split
  · have hmod := Nat.mod_lt num hden
    omega
  split <;> omega

/-- A whole quotient is not rounded. -/
theorem roundHalfEven_mul (m : Nat) {den : Nat} (hden : 0 < den) :
    roundHalfEven (m * den) den = m := by
  unfold roundHalfEven
  rw [Nat.mul_mod_left, Nat.mul_div_cancel m hden, if_pos (by omega)]

/-! ### Rounding to a double -/

/-- The number of units as a power of two. -/
theorem unitsPerOne_eq : unitsPerOne = 2 ^ 1074 := by
  unfold unitsPerOne
  generalize 1074 = n
  exact Nat.one_shiftLeft n

section

variable {negative : Bool} {num den : Nat} {x : Binary64}

/-- A quotient by zero has no double. -/
theorem den_pos_of_ofRatio? (h : ofRatio? negative num den = some x) : 0 < den := by
  unfold ofRatio? at h
  by_cases hden : den = 0
  · simp [hden] at h
  · omega

/-- A double is a rounded significand at its scale. One that is rounded
up to 54 bits is the same number at the next scale. -/
theorem units_of_ofRatio? (h : ofRatio? negative num den = some x) :
    x.units = roundHalfEven (num * unitsPerOne)
        (den <<< scaleFor (num * unitsPerOne / den)) *
      2 ^ scaleFor (num * unitsPerOne / den) := by
  have hden := den_pos_of_ofRatio? h
  have hle := roundHalfEven_scaleFor_le (num * unitsPerOne) den
  unfold ofRatio? at h
  dsimp only at h
  rw [if_neg (by omega)] at h
  split at h
  · split at h
    · cases h
      exact Nat.shiftLeft_eq ..
    · cases h
  · next hlt =>
      split at h
      · cases h
        -- The significand is `2 ^ 53`, which is `2 ^ 52` at the next scale.
        have hfull := Nat.le_antisymm hle (Nat.le_of_not_lt hlt)
        rw [hfull]
        simp only [units, Nat.shiftLeft_eq, Nat.one_mul, ← Nat.pow_add]
        congr 1
        omega
      · cases h

/-- The last place of a double is at most `2 ^ -52` of its value, unless
nothing was scaled. -/
theorem scaleFor_cases (total : Nat) {den : Nat} (hden : 0 < den) :
    scaleFor (total / den) = 0 ∨ 2 ^ 52 * (den * 2 ^ scaleFor (total / den)) ≤ total := by
  by_cases hscale : scaleFor (total / den) = 0
  · exact .inl hscale
  · refine .inr ?_
    have hle := le_shiftRight_scaleFor hscale
    rw [Nat.shiftRight_eq_div_pow, Nat.shiftLeft_eq, Nat.one_mul,
      Nat.le_div_iff_mul_le (Nat.two_pow_pos _), Nat.le_div_iff_mul_le hden] at hle
    calc 2 ^ 52 * (den * 2 ^ scaleFor (total / den))
        = 2 ^ 52 * 2 ^ scaleFor (total / den) * den := by ring
      _ ≤ total := hle

/-- The scale of a quotient below `2 ^ bits`. -/
theorem scaleFor_le {bits : Nat} (hden : 0 < den) (h : num < den * 2 ^ bits) :
    scaleFor (num * unitsPerOne / den) ≤ 1074 + bits - 53 := by
  by_cases hzero : num * unitsPerOne / den = 0
  · rw [hzero]
    exact Nat.zero_le _
  -- `k` stands for 1074, so that the power is not evaluated.
  · have hlog : ∀ k, unitsPerOne = 2 ^ k → (num * unitsPerOne / den).log2 < k + bits := by
      intro k hk
      rw [Nat.log2_lt hzero, Nat.div_lt_iff_lt_mul hden, hk, Nat.pow_add]
      calc num * 2 ^ k < den * 2 ^ bits * 2 ^ k := Nat.mul_lt_mul_of_pos_right h (Nat.two_pow_pos k)
        _ = 2 ^ k * 2 ^ bits * den := by ring
    have hlt := hlog 1074 unitsPerOne_eq
    unfold scaleFor
    omega

/-- Only large quotients have no double. -/
theorem isSome_ofRatio? (hden : 0 < den) (h : num < den * 2 ^ 1023) :
    (ofRatio? negative num den).isSome = true := by
  have hscale := scaleFor_le hden h
  unfold ofRatio?
  dsimp only
  rw [if_neg (by omega)]
  split
  · rw [dif_pos (by omega), Option.isSome_some]
  · rw [dif_pos (by omega), Option.isSome_some]

end

/-! ### Doubles as rational numbers -/

/-- There are units, so that values can be divided by their number. -/
theorem unitsPerOne_pos : (0 : ℚ) < unitsPerOne := by
  rw [unitsPerOne_eq, Nat.cast_pow, Nat.cast_ofNat]
  exact pow_pos two_pos 1074

/-- The absolute value. -/
def value (x : Binary64) : ℚ :=
  x.units / unitsPerOne

/-- Zero is the double without a significand. -/
theorem value_eq_zero_iff {x : Binary64} : x.value = 0 ↔ x.significand = 0 := by
  rw [value, div_eq_zero_iff, or_iff_left unitsPerOne_pos.ne', Nat.cast_eq_zero, units,
    Nat.shiftLeft_eq_zero_iff]

/-- The sign is not part of the value. -/
theorem value_nonneg (x : Binary64) : 0 ≤ x.value :=
  div_nonneg (Nat.cast_nonneg _) unitsPerOne_pos.le

/-- A distance in units, as a distance of rational numbers. -/
theorem abs_sub_le_of_scaled {units num den step U : ℚ} (hden : 0 < den) (hU : 0 < U)
    (hup : 2 * (units * den) ≤ 2 * (num * U) + den * step)
    (hdown : 2 * (num * U) ≤ 2 * (units * den) + den * step) :
    |units / U - num / den| ≤ step / (2 * U) := by
  have hdiff : units / U - num / den = (units * den - num * U) / (U * den) := by
    field_simp
  have habs : |units * den - num * U| ≤ den * step / 2 := by
    rw [abs_le]
    constructor <;> linarith
  rw [hdiff, abs_div, abs_of_pos (mul_pos hU hden),
    div_le_div_iff₀ (mul_pos hU hden) (mul_pos two_pos hU)]
  calc |units * den - num * U| * (2 * U)
      ≤ den * step / 2 * (2 * U) := mul_le_mul_of_nonneg_right habs (mul_pos two_pos hU).le
    _ = step * (U * den) := by ring

/-- Half of the least positive double. -/
def halfUnit : ℚ :=
  1 / (2 * unitsPerOne)

/-- Half a unit is more than nothing. -/
theorem halfUnit_pos : 0 < halfUnit :=
  one_div_pos.mpr (mul_pos two_pos unitsPerOne_pos)

/-- `x` may be what rounding makes of `q`: half of its last place is at
most that part of `q`, or half of the least positive double. -/
def Rounds (x : Binary64) (q : ℚ) : Prop :=
  |x.value - q| ≤ q / 2 ^ 53 + halfUnit

section

variable {negative : Bool} {num den : Nat} {x y z : Binary64}

/-- The double for a quotient is as close as doubles are at its size. -/
theorem rounds_of_ofRatio? (h : ofRatio? negative num den = some x) :
    x.Rounds ((num : ℚ) / den) := by
  have hden := den_pos_of_ofRatio? h
  have hunits := units_of_ofRatio? h
  have hlast := scaleFor_cases (num * unitsPerOne) hden
  generalize scaleFor (num * unitsPerOne / den) = scale at hunits hlast
  have hstep : 0 < den <<< scale := by
    rw [Nat.shiftLeft_eq]
    exact Nat.mul_pos hden (Nat.two_pow_pos _)
  obtain ⟨hup, hdown⟩ := roundHalfEven_near (num * unitsPerOne) hstep
  -- The rounded significand times its step is the double, with the denominator on both sides.
  have hround : roundHalfEven (num * unitsPerOne) (den <<< scale) * (den <<< scale) =
      x.units * den := by
    rw [hunits, Nat.shiftLeft_eq]
    ring
  rw [hround, Nat.shiftLeft_eq] at hup hdown
  have hd : (0 : ℚ) < den := by exact_mod_cast hden
  have hnear : |x.value - (num : ℚ) / den| ≤ 2 ^ scale / (2 * unitsPerOne) :=
    abs_sub_le_of_scaled hd unitsPerOne_pos (by exact_mod_cast hup) (by exact_mod_cast hdown)
  have hhalf := halfUnit_pos
  refine hnear.trans ?_
  -- Half a step is half of the least positive double, or a part of the quotient.
  rcases hlast with rfl | hlast
  · have hquotient : (0 : ℚ) ≤ (num : ℚ) / den / 2 ^ 53 := by positivity
    rw [pow_zero, ← halfUnit]
    linarith
  · have hlastQ : 2 ^ 52 * ((den : ℚ) * 2 ^ scale) ≤ num * unitsPerOne := by exact_mod_cast hlast
    have hpart : 2 ^ scale / (2 * unitsPerOne : ℚ) ≤ (num : ℚ) / den / 2 ^ 53 := by
      rw [div_div, div_le_div_iff₀ (mul_pos two_pos unitsPerOne_pos) (mul_pos hd (by norm_num))]
      linarith
    linarith

/-- A whole number below `2 ^ 53` is a double. -/
theorem value_of_ofRatio? (h : ofRatio? negative num den = some x) {m : Nat}
    (hnum : num = m * den) (hm : m < 2 ^ 53) : x.value = m := by
  have hden := den_pos_of_ofRatio? h
  have hunits := units_of_ofRatio? h
  have hlt : num < den * 2 ^ 53 := by
    rw [hnum, Nat.mul_comm]
    exact Nat.mul_lt_mul_of_pos_left hm hden
  have hscale : scaleFor (num * unitsPerOne / den) ≤ 1074 := scaleFor_le hden hlt
  generalize scaleFor (num * unitsPerOne / den) = scale at hunits hscale
  -- The scale divides the units of one, so the significand is whole before it is rounded.
  have hsplit : unitsPerOne = 2 ^ (1074 - scale) * 2 ^ scale := by
    rw [← Nat.pow_add, Nat.sub_add_cancel hscale, unitsPerOne_eq]
  have htotal : num * unitsPerOne = m * 2 ^ (1074 - scale) * (den <<< scale) := by
    rw [hnum, Nat.shiftLeft_eq, hsplit]
    ring
  have hstep : 0 < den <<< scale := Nat.shiftLeft_pos_iff.mpr hden
  rw [htotal, roundHalfEven_mul _ hstep, Nat.mul_assoc, ← hsplit] at hunits
  rw [value, hunits, Nat.cast_mul, mul_div_cancel_right₀ _ unitsPerOne_pos.ne']

/-! ### Arithmetic -/

/-- The same for a natural number. -/
theorem rounds_of_ofNat? {n : Nat} (h : ofNat? n = some x) : x.Rounds n := by
  simpa using rounds_of_ofRatio? h

/-- A natural number below `2 ^ 53` is not rounded. -/
theorem value_of_ofNat? {n : Nat} (h : ofNat? n = some x) (hn : n < 2 ^ 53) : x.value = n :=
  value_of_ofRatio? h (Nat.mul_one n).symm hn

/-- The quotient that is rounded for a product is the product. -/
theorem quotient_of_mul? (x y : Binary64) :
    ((x.units * y.units : Nat) : ℚ) / (unitsPerOne * unitsPerOne : Nat) = x.value * y.value := by
  rw [Nat.cast_mul, Nat.cast_mul, value, value, div_mul_div_comm]

/-- The quotient that is rounded for a quotient is that quotient: the
units cancel out. -/
theorem quotient_of_div? (x y : Binary64) : (x.units : ℚ) / y.units = x.value / y.value := by
  rw [value, value, div_div_div_cancel_right₀ unitsPerOne_pos.ne']

/-- Products are rounded. -/
theorem rounds_of_mul? (h : x.mul? y = some z) : z.Rounds (x.value * y.value) := by
  rw [← quotient_of_mul?]
  exact rounds_of_ofRatio? h

/-- Quotients are rounded. -/
theorem rounds_of_div? (h : x.div? y = some z) : z.Rounds (x.value / y.value) := by
  rw [← quotient_of_div?]
  exact rounds_of_ofRatio? h

/-- Products that are whole and small are exact. -/
theorem value_of_mul? (h : x.mul? y = some z) {m : Nat} (hm : x.value * y.value = m)
    (hlt : m < 2 ^ 53) : z.value = m := by
  refine value_of_ofRatio? h ?_ hlt
  have hden : ((unitsPerOne * unitsPerOne : Nat) : ℚ) ≠ 0 := by
    rw [Nat.cast_mul]
    exact (mul_pos unitsPerOne_pos unitsPerOne_pos).ne'
  rw [← quotient_of_mul?, div_eq_iff hden] at hm
  exact_mod_cast hm

/-- Quotients that are whole and small are exact. -/
theorem value_of_div? (h : x.div? y = some z) {m : Nat} (hm : x.value / y.value = m)
    (hlt : m < 2 ^ 53) : z.value = m := by
  refine value_of_ofRatio? h ?_ hlt
  have hden : (y.units : ℚ) ≠ 0 := by
    have := den_pos_of_ofRatio? h
    exact_mod_cast this.ne'
  rw [← quotient_of_div?, div_eq_iff hden] at hm
  exact_mod_cast hm

/-- A quotient that is not above one has a double. -/
theorem isSome_div? (hy : 0 < y.value) (h : x.value ≤ y.value) : (x.div? y).isSome = true := by
  have hunits : x.units ≤ y.units := by
    rw [value, value, div_le_div_iff_of_pos_right unitsPerOne_pos] at h
    exact_mod_cast h
  have hpos : 0 < y.units := by
    rw [value, div_pos_iff_of_pos_right unitsPerOne_pos] at hy
    exact_mod_cast hy
  have hpow : ∀ n, 0 < n → 1 < 2 ^ n := fun n hn => Nat.one_lt_two_pow hn.ne'
  refine isSome_ofRatio? hpos (hunits.trans_lt ?_)
  exact lt_mul_of_one_lt_right hpos (hpow _ (by decide))

/-- A double that counts as whole has that whole number as its value. -/
theorem value_of_whole? {n : Nat} (h : x.whole? = some n) : x.value = n := by
  unfold whole? at h
  split at h
  · next hmod =>
      cases h
      have hunits : x.units = x.units / unitsPerOne * unitsPerOne :=
        (Nat.div_mul_cancel (Nat.dvd_of_mod_eq_zero hmod)).symm
      rw [value, div_eq_iff unitsPerOne_pos.ne']
      exact_mod_cast hunits
  · cases h

end

end FilterSql.Binary64
