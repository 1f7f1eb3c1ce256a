/-!
# `FilterSql.Binary64.Basic`: finite doubles as exact numbers

A finite double is a sign and a whole number of units, one unit being
`2 ^ -1074`, the least positive double. Keeping the significand and
the power of two apart as natural numbers makes every operation exact
integer arithmetic followed by one rounding.

* `Binary64.ofRatio?`: the double nearest to a quotient of natural
  numbers, a half going to the even significand; nothing if the
  quotient is too large to be finite.
* `Binary64.mul?`, `Binary64.div?`: the rounded product and quotient.
-/

set_option autoImplicit false

namespace FilterSql

/-- A finite double: `± significand · 2 ^ scale` units of
`2 ^ -1074`. The significand has at most 53 bits, and the last two
fields fix one representation for each number and sign. -/
structure Binary64 where
  negative : Bool
  significand : Nat
  scale : Nat
  significand_lt : significand < 1 <<< 53
  scale_le : scale ≤ 2045
  normal : scale = 0 ∨ 1 <<< 52 ≤ significand
deriving DecidableEq

namespace Binary64

/-- How many units of the least positive double make one. -/
def unitsPerOne : Nat := 1 <<< 1074

/-- The absolute value in units of the least positive double. -/
def units (x : Binary64) : Nat :=
  x.significand <<< x.scale

/-- Zero with the given sign. -/
def zero (negative : Bool) : Binary64 where
  negative
  significand := 0
  scale := 0
  significand_lt := by decide
  scale_le := by decide
  normal := .inl rfl

/-- The same number with the given sign. -/
def withSign (negative : Bool) (x : Binary64) : Binary64 :=
  { x with negative }

/-! ### Rounding -/

/-- `num / den` to the nearest natural number, a half going to the
even neighbour. -/
def roundHalfEven (num den : Nat) : Nat :=
  if 2 * (num % den) < den then num / den
  else if den < 2 * (num % den) then num / den + 1
  else if num / den % 2 = 0 then num / den
  else num / den + 1

/-- Rounding never goes below the whole part. -/
theorem div_le_roundHalfEven (num den : Nat) :
    num / den ≤ roundHalfEven num den := by
  unfold roundHalfEven
  repeat' split
  all_goals omega

/-- Nor does it go beyond the next whole number. -/
theorem roundHalfEven_le (num den : Nat) :
    roundHalfEven num den ≤ num / den + 1 := by
  unfold roundHalfEven
  repeat' split
  all_goals omega

/-- The power of two that leaves a 53-bit significand for a number
with whole part `whole`. -/
def scaleFor (whole : Nat) : Nat :=
  whole.log2 - 52

/-- At its scale a number fits into a significand. -/
theorem shiftRight_scaleFor_lt (whole : Nat) :
    whole >>> scaleFor whole < 1 <<< 53 := by
  rw [Nat.shiftRight_eq_div_pow, Nat.div_lt_iff_lt_mul (Nat.two_pow_pos _),
    Nat.shiftLeft_eq, Nat.one_mul, ← Nat.pow_add]
  refine Nat.lt_of_lt_of_le Nat.lt_log2_self ?_
  exact Nat.pow_le_pow_right (by decide) (by unfold scaleFor; omega)

/-- If it has to be scaled at all, it fills the significand. -/
theorem le_shiftRight_scaleFor {whole : Nat} (h : scaleFor whole ≠ 0) :
    1 <<< 52 ≤ whole >>> scaleFor whole := by
  have hlog : whole.log2 = 52 + scaleFor whole := by
    unfold scaleFor at h ⊢; omega
  have hne : whole ≠ 0 := by
    rintro rfl
    exact h (by decide)
  rw [Nat.shiftRight_eq_div_pow, Nat.le_div_iff_mul_le (Nat.two_pow_pos _),
    Nat.shiftLeft_eq, Nat.one_mul, ← Nat.pow_add, ← hlog]
  exact Nat.log2_self_le hne

/-- Scaling the denominator scales the whole part. -/
theorem div_shiftLeft (num den scale : Nat) :
    num / (den <<< scale) = (num / den) >>> scale := by
  rw [Nat.shiftLeft_eq, Nat.shiftRight_eq_div_pow, Nat.div_div_eq_div_mul]

/-- A rounded significand is at most one step too long, which is the
case that `ofRatio?` moves to the next power of two. -/
theorem roundHalfEven_scaleFor_le (total den : Nat) :
    roundHalfEven total (den <<< scaleFor (total / den)) ≤ 1 <<< 53 := by
  refine Nat.le_trans (roundHalfEven_le ..) ?_
  rw [div_shiftLeft]
  exact shiftRight_scaleFor_lt _

/-- A rounded significand is long enough, unless nothing was scaled. -/
theorem le_roundHalfEven_scaleFor {total den : Nat}
    (h : scaleFor (total / den) ≠ 0) :
    1 <<< 52 ≤ roundHalfEven total (den <<< scaleFor (total / den)) := by
  refine Nat.le_trans ?_ (div_le_roundHalfEven ..)
  rw [div_shiftLeft]
  exact le_shiftRight_scaleFor h

/-- The double nearest to `num / den`, a half going to the even
significand; `none` if it is too large, or if `den` is zero. A
significand that rounds up to 54 bits moves to the next power. -/
def ofRatio? (negative : Bool) (num den : Nat) : Option Binary64 :=
  let total := num * unitsPerOne
  let scale := scaleFor (total / den)
  let significand := roundHalfEven total (den <<< scale)
  if den = 0 then none
  else if hlt : significand < 1 <<< 53 then
    if hscale : scale ≤ 2045 then
      some
        { negative, significand, scale
          significand_lt := hlt
          scale_le := hscale
          normal := Decidable.or_iff_not_imp_left.2 le_roundHalfEven_scaleFor }
    else none
  else if hscale : scale + 1 ≤ 2045 then
    -- Rounded up to `2 ^ 53`, which is `2 ^ 52` at the next scale.
    some
      { negative
        significand := 1 <<< 52
        scale := scale + 1
        significand_lt := by decide
        scale_le := hscale
        normal := .inr (Nat.le_refl _) }
  else none

/-- The double nearest to a natural number. -/
def ofNat? (n : Nat) : Option Binary64 :=
  ofRatio? false n 1

/-! ### Arithmetic -/

/-- The rounded product; `none` if it is too large. -/
def mul? (x y : Binary64) : Option Binary64 :=
  ofRatio? (x.negative != y.negative) (x.units * y.units)
    (unitsPerOne * unitsPerOne)

/-- The rounded quotient; `none` if it is too large or `y` is zero. -/
def div? (x y : Binary64) : Option Binary64 :=
  ofRatio? (x.negative != y.negative) x.units y.units

/-- The whole number this double is, without its sign; `none` if it
has a fractional part. -/
def whole? (x : Binary64) : Option Nat :=
  if x.units % unitsPerOne = 0 then some (x.units / unitsPerOne)
  else none

end Binary64

end FilterSql
