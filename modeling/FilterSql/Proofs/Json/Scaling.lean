import FilterSql.Json.Numeral
import FilterSql.Proofs.Binary64.Rounding

/-!
# `FilterSql.Proofs.Json.Scaling`: the double for a significand and an exponent

`scaled? s k` is the double for `s · 10 ^ k`, by one multiplication or
division, or by several divisions if the exponent is far below zero.
This module says what can be told about `s · 10 ^ k` when the double is
a whole number `m` of at most 53 bits.

* `exact_of_scaled?`: a significand of 53 bits is carried over exactly.
  A fractional part would have to be lost in rounding, but the distance
  to the next whole number is larger than what rounding can do.
* `near_of_scaled?`: larger significands are rounded first, and both
  roundings together change the last two bits at most.
* `lt_of_shrink`: what several divisions bring down to zero is very
  small.
-/

set_option autoImplicit false

namespace FilterSql.Json

open Binary64

/-! ### Constants -/

/-- A number of that size is not rounded to zero. -/
theorem four_mul_halfUnit_le : 4 * halfUnit ≤ 1 / 10 ^ 323 := by
  have hunits : 2 * 10 ^ 323 ≤ unitsPerOne := by decide +kernel
  have hunitsQ : 2 * (10 : ℚ) ^ 323 ≤ unitsPerOne := by exact_mod_cast hunits
  have hpow : (0 : ℚ) < 10 ^ 323 := pow_pos (by norm_num) 323
  generalize (10 : ℚ) ^ 323 = limit at hunitsQ hpow
  rw [halfUnit, mul_one_div, div_le_div_iff₀ (mul_pos two_pos unitsPerOne_pos) hpow]
  linarith

/-- Half a unit is far below every digit that counts. -/
theorem halfUnit_lt : halfUnit < 1 / 10 ^ 100 := by
  calc halfUnit ≤ 4 * halfUnit := by linarith [halfUnit_pos]
    _ ≤ 1 / 10 ^ 323 := four_mul_halfUnit_le
    _ < 1 / 10 ^ 100 :=
      one_div_lt_one_div_of_lt (by norm_num) (pow_lt_pow_right₀ (by norm_num) (by norm_num))

/-- The powers of ten that are doubles. -/
theorem value_powerOfTen {k : Nat} (hk : k < 23) : (powerOfTen k).value = 10 ^ k := by
  have hunits : ∀ k < 23, (powerOfTen k).units = 10 ^ k * unitsPerOne := by decide +kernel
  rw [value, hunits k hk, Nat.cast_mul, mul_div_cancel_right₀ _ unitsPerOne_pos.ne', Nat.cast_pow,
    Nat.cast_ofNat]

/-- The powers of ten that are used are in range. -/
theorem isSome_powerOfTen {k : Nat} (hk : k ≤ maxPower) :
    (ofNat? (Nat.pow 10 k)).isSome = true := by
  by_cases hmax : k = maxPower
  · subst hmax
    decide +kernel
  · have hlt : k ≤ 307 := by
      unfold maxPower at hk hmax
      omega
    refine isSome_ofRatio? Nat.one_pos ?_
    calc 10 ^ k ≤ 10 ^ 307 := Nat.pow_le_pow_right (by decide) hlt
      _ < 1 * 2 ^ 1023 := by decide +kernel

/-- The other powers of ten are close to doubles. -/
theorem powerOfTen_near {k : Nat} (hk : k ≤ maxPower) :
    999 / 1000 * 10 ^ k ≤ (powerOfTen k).value ∧ (powerOfTen k).value ≤ 1001 / 1000 * 10 ^ k := by
  obtain ⟨x, hx⟩ := Option.isSome_iff_exists.mp (isSome_powerOfTen hk)
  have hpower : powerOfTen k = x := by
    rw [powerOfTen, hx, Option.getD_some]
  have hrounds := rounds_of_ofNat? hx
  have hone : (1 : ℚ) ≤ 10 ^ k := one_le_pow₀ (by norm_num)
  have hhalf := halfUnit_lt
  rw [Rounds, Nat.pow_eq, Nat.cast_pow, Nat.cast_ofNat, abs_le] at hrounds
  rw [hpower]
  constructor <;> linarith

/-! ### Significands -/

/-- The double for the digits that were kept. -/
def kept (s : Nat) : Binary64 :=
  (ofNat? s).getD (.zero false)

/-- The digits that were kept are in range. -/
theorem ofNat?_eq_kept {s : Nat} (hs : s < 2 ^ 64) : ofNat? s = some (kept s) := by
  have hlt : s < 1 * 2 ^ 1023 := by
    have hpow : ∀ n, 64 < n → 2 ^ 64 < 2 ^ n := fun n hn => Nat.pow_lt_pow_right (by decide) hn
    rw [Nat.one_mul]
    exact lt_trans hs (hpow _ (by decide))
  have hsome : (ofNat? s).isSome = true := isSome_ofRatio? Nat.one_pos hlt
  obtain ⟨x, hx⟩ := Option.isSome_iff_exists.mp hsome
  rw [kept, hx, Option.getD_some]

/-- Their double is rounded. -/
theorem rounds_kept {s : Nat} (hs : s < 2 ^ 64) : (kept s).Rounds s :=
  rounds_of_ofNat? (ofNat?_eq_kept hs)

/-- Below `2 ^ 53` it is exact. -/
theorem value_kept {s : Nat} (hs : s < 2 ^ 53) : (kept s).value = s :=
  value_of_ofNat? (ofNat?_eq_kept (by omega)) hs

/-- How far their double may be off. -/
theorem kept_bounds {s : Nat} (hs : s < 2 ^ 64) :
    (s : ℚ) - s / 2 ^ 53 - halfUnit ≤ (kept s).value ∧
      (kept s).value ≤ s + s / 2 ^ 53 + halfUnit := by
  have hkept := rounds_kept hs
  rw [Rounds, abs_le] at hkept
  constructor <;> linarith [hkept.1, hkept.2]

/-- A significand loses little. -/
theorem le_kept {s : Nat} (hs : s < 2 ^ 64) (hpos : 0 < s) :
    999 / 1000 * (s : ℚ) ≤ (kept s).value := by
  have hone : (1 : ℚ) ≤ s := by exact_mod_cast hpos
  linarith [(kept_bounds hs).1, halfUnit_lt]

/-- Their double is not much larger than they are. -/
theorem kept_le {s : Nat} (hs : s < 2 ^ 64) : (kept s).value ≤ 2 ^ 65 := by
  have hsQ : (s : ℚ) ≤ 2 ^ 64 := by exact_mod_cast hs.le
  linarith [(kept_bounds hs).2, halfUnit_lt]

/-! ### Products -/

/-- A product that is rounded to at most `2 ^ 53` is hardly larger. -/
theorem le_of_rounds {q : ℚ} {z : Binary64} {m : Nat} (h : z.Rounds q) (hm : z.value = m)
    (hle : m ≤ 2 ^ 53) : q < 2 ^ 53 + 2 := by
  have hhalf := halfUnit_lt
  have hleQ : (m : ℚ) ≤ 2 ^ 53 := by exact_mod_cast hle
  rw [Rounds, hm, abs_le] at h
  linarith [h.1]

/-- A significand of 53 bits is multiplied exactly, or the product is
large: one that is rounded back to `2 ^ 53` would have to be no multiple
of ten. -/
theorem eq_mul_of_mul? {s k m : Nat} {z : Binary64} (hs : s < 2 ^ 53) (hk : k ≤ maxPower)
    (h : (kept s).mul? (powerOfTen k) = some z) (hm : z.value = m) (hle : m ≤ 2 ^ 53) :
    m = s * 10 ^ k := by
  have hlt := le_of_rounds (rounds_of_mul? h) hm hle
  rw [value_kept hs] at hlt
  -- Where the exact product is whole and below the bound nothing is rounded.
  have hexact : ∀ n : Nat, (s : ℚ) * (powerOfTen k).value = n → n < 2 ^ 53 → m = n := by
    intro n hn hsmall
    have hvalue := value_of_mul? h (by rw [value_kept hs, hn]) hsmall
    rw [hm] at hvalue
    exact_mod_cast hvalue
  by_cases hzero : s = 0
  · subst hzero
    rw [Nat.zero_mul]
    exact hexact 0 (by simp) (by decide)
  have hone : (1 : ℚ) ≤ s := by exact_mod_cast Nat.one_le_iff_ne_zero.mpr hzero
  by_cases hpower : k < 23
  · rw [value_powerOfTen hpower] at hlt hexact
    refine hexact _ (by push_cast; rfl) ?_
    have hltN : s * 10 ^ k < 2 ^ 53 + 2 := by exact_mod_cast hlt
    -- The bound leaves `2 ^ 53` and the next number, and neither is a multiple of ten.
    cases k with
    | zero => omega
    | succ k =>
        rw [Nat.pow_succ, ← Nat.mul_assoc] at hltN ⊢
        omega
  · -- The power alone is beyond the bound.
    have hlarge : (10 : ℚ) ^ 23 ≤ 10 ^ k := pow_le_pow_right₀ (by norm_num) (by omega)
    have hnear := (powerOfTen_near hk).1
    have hproduct : (powerOfTen k).value ≤ s * (powerOfTen k).value :=
      le_mul_of_one_le_left (value_nonneg _) hone
    norm_num at hlarge hlt
    linarith

/-! ### Quotients -/

/-- A whole number that is no quotient differs from it by at least one
part. -/
theorem one_div_le_abs_sub {m s d : Nat} (hd : 0 < d) (h : m * d ≠ s) :
    1 / (d : ℚ) ≤ |(m : ℚ) - s / d| := by
  have hdQ : (0 : ℚ) < d := by exact_mod_cast hd
  have hdiff : (m : ℚ) - s / d = ((m * d : Nat) - (s : Nat) : ℤ) / (d : ℚ) := by
    push_cast
    field_simp
  have hone : (1 : ℤ) ≤ |((m * d : Nat) : ℤ) - (s : Nat)| := by
    refine Int.one_le_abs (sub_ne_zero.mpr ?_)
    exact_mod_cast h
  rw [hdiff, abs_div, abs_of_pos hdQ]
  refine div_le_div_of_nonneg_right ?_ hdQ.le
  exact_mod_cast hone

/-- A quotient of that size is not rounded to zero. -/
theorem pos_of_rounds {q : ℚ} {z : Binary64} (h : z.Rounds q) (hq : 2 * halfUnit ≤ q) :
    0 < z.value := by
  have hhalf := halfUnit_pos
  rw [Rounds, abs_le] at h
  linarith [h.1]

/-- A small quotient is not rounded to one or more. -/
theorem eq_zero_of_rounds {q : ℚ} {z : Binary64} {m : Nat} (h : z.Rounds q) (hm : z.value = m)
    (hq : q ≤ 1 / 2) : m = 0 := by
  have hhalf := halfUnit_lt
  rw [Rounds, hm, abs_le] at h
  have hlt : (m : ℚ) < 1 := by linarith [h.2]
  have hltN : m < 1 := by exact_mod_cast hlt
  omega

section

variable {s k m : Nat} {z : Binary64}

/-- Large powers as divisors. -/
theorem powerOfTen_bounds (hlow : 23 ≤ k) (hk : k ≤ maxPower) :
    10 ^ 22 ≤ (powerOfTen k).value ∧ (powerOfTen k).value ≤ 10 ^ 323 := by
  obtain ⟨hdown, hup⟩ := powerOfTen_near hk
  have hlarge : (10 : ℚ) ^ 23 ≤ 10 ^ k := pow_le_pow_right₀ (by norm_num) hlow
  have hsmall : (10 : ℚ) ^ k * 10 ≤ 10 ^ 323 := by
    rw [← pow_succ]
    refine pow_le_pow_right₀ (by norm_num) ?_
    unfold maxPower at hk
    omega
  generalize (10 : ℚ) ^ 323 = limit at hsmall ⊢
  constructor <;> linarith

/-- A significand of 53 bits is divided exactly by a power of ten that
is a double, or the quotient has a fractional part: what is lost in
rounding is less than the distance to the next whole number. -/
theorem eq_div_of_small (hs : s < 2 ^ 53) (hk : k < 23)
    (h : (kept s).div? (powerOfTen k) = some z) (hm : z.value = m) : (m : ℚ) = s / 10 ^ k := by
  by_cases hwhole : m * 10 ^ k = s
  · rw [← hwhole]
    push_cast
    field_simp
  -- Otherwise `m` is one part in `10 ^ k` away, which is more than rounding can do.
  · exfalso
    have hrounds := rounds_of_div? h
    rw [value_kept hs, value_powerOfTen hk, Rounds, hm] at hrounds
    have hfar := one_div_le_abs_sub (Nat.pow_pos (by decide : 0 < 10)) hwhole
    push_cast at hfar
    have hpos : (0 : ℚ) < 10 ^ k := by positivity
    have hparts : 1 ≤ (s : ℚ) / 2 ^ 53 + halfUnit * 10 ^ k :=
      calc (1 : ℚ) = 1 / 10 ^ k * 10 ^ k := by field_simp
        _ ≤ (s / 10 ^ k / 2 ^ 53 + halfUnit) * 10 ^ k :=
          mul_le_mul_of_nonneg_right (hfar.trans hrounds) hpos.le
        _ = s / 2 ^ 53 + halfUnit * 10 ^ k := by field_simp
    have hpower : halfUnit * 10 ^ k ≤ halfUnit * 10 ^ 22 :=
      mul_le_mul_of_nonneg_left (pow_le_pow_right₀ (by norm_num) (by omega)) halfUnit_pos.le
    have hsQ : (s : ℚ) + 1 ≤ 2 ^ 53 := by exact_mod_cast hs
    linarith [halfUnit_lt]

/-- The quotient by another power of ten lies between zero and one. -/
theorem eq_zero_of_large (hs : s < 2 ^ 64) (hlow : 23 ≤ k) (hk : k ≤ maxPower)
    (h : (kept s).div? (powerOfTen k) = some z) (hm : z.value = m) : s = 0 := by
  by_contra hzero
  obtain ⟨hlarge, hsmall⟩ := powerOfTen_bounds hlow hk
  have hrounds := rounds_of_div? h
  have hpos : (0 : ℚ) < (powerOfTen k).value := lt_of_lt_of_le (by norm_num) hlarge
  have hone : (1 : ℚ) ≤ s := by exact_mod_cast Nat.one_le_iff_ne_zero.mpr hzero
  have hkept := le_kept hs (Nat.pos_of_ne_zero hzero)
  -- The quotient is rounded to zero, being below one, and is too large for that.
  have hbelow : (kept s).value / (powerOfTen k).value ≤ 1 / 2 := by
    rw [div_le_iff₀ hpos]
    linarith [kept_le hs]
  have habove : 2 * halfUnit ≤ (kept s).value / (powerOfTen k).value :=
    calc 2 * halfUnit = 1 / 2 * (4 * halfUnit) := by ring
      _ ≤ 1 / 2 * (1 / 10 ^ 323) := mul_le_mul_of_nonneg_left four_mul_halfUnit_le (by norm_num)
      _ ≤ 1 / 2 * (1 / (powerOfTen k).value) :=
        mul_le_mul_of_nonneg_left (one_div_le_one_div_of_le hpos hsmall) (by norm_num)
      _ = 1 / 2 / (powerOfTen k).value := by rw [mul_one_div]
      _ ≤ (kept s).value / (powerOfTen k).value :=
        div_le_div_of_nonneg_right (by linarith) hpos.le
  have hmpos := pos_of_rounds hrounds habove
  rw [hm, eq_zero_of_rounds hrounds hm hbelow, Nat.cast_zero] at hmpos
  exact lt_irrefl _ hmpos

/-- A quotient that is whole is exact. -/
theorem eq_div_of_div? (hs : s < 2 ^ 53) (hk : k ≤ maxPower)
    (h : (kept s).div? (powerOfTen k) = some z) (hm : z.value = m) :
    (m : ℚ) = s / 10 ^ k := by
  by_cases hpower : k < 23
  · exact eq_div_of_small hs hpower h hm
  · have hzero := eq_zero_of_large (by omega) (by omega) hk h hm
    subst hzero
    have hvalue := value_of_div? h (m := 0) (by rw [value_kept hs]; simp) (by decide)
    rw [← hm, hvalue]
    simp

end

/-! ### Repeated division -/

/-- Powers of ten are not small. -/
theorem half_le_powerOfTen {k : Nat} (hk : k ≤ maxPower) : 1 / 2 ≤ (powerOfTen k).value := by
  have hone : (1 : ℚ) ≤ 10 ^ k := one_le_pow₀ (by norm_num)
  linarith [(powerOfTen_near hk).1]

/-- One division by the largest power of ten leaves little. -/
theorem value_div?_le {x : Binary64} (hx : x.value ≤ 2 ^ 65) :
    ((x.div? (powerOfTen maxPower)).getD (.zero false)).value ≤ 1 / 8 := by
  cases h : x.div? (powerOfTen maxPower) with
  | none =>
      have hzero : (Binary64.zero false).value = 0 := value_eq_zero_iff.mpr rfl
      rw [Option.getD_none, hzero]
      norm_num
  | some y =>
      have hrounds := rounds_of_div? h
      have hlarge := (powerOfTen_bounds (by decide) (le_refl maxPower)).1
      have hpos : (0 : ℚ) < (powerOfTen maxPower).value := lt_of_lt_of_le (by norm_num) hlarge
      have hbelow : x.value / (powerOfTen maxPower).value ≤ 1 / 100 := by
        rw [div_le_iff₀ hpos]
        linarith
      rw [Rounds, abs_le] at hrounds
      rw [Option.getD_some]
      linarith [hrounds.2, halfUnit_lt]

/-- All divisions by the largest power of ten. -/
theorem value_shrink_le {x : Binary64} (hx : x.value ≤ 2 ^ 65) (times : Nat) :
    (shrink x (times + 1)).value ≤ 1 / 8 := by
  induction times generalizing x with
  | zero =>
      rw [shrink]
      split
      · next hzero => rw [value_eq_zero_iff.mpr hzero]; norm_num
      · exact value_div?_le hx
  | succ times ih =>
      rw [shrink]
      split
      · next hzero => rw [value_eq_zero_iff.mpr hzero]; norm_num
      · exact ih ((value_div?_le hx).trans (by norm_num))

/-- The exponents that need more than one division. -/
theorem exists_times {k : Nat} (hk : maxPower < k) :
    ∃ times, (k - 1) / maxPower = times + 1 ∧ k - maxPower * (times + 1) ≤ maxPower := by
  unfold maxPower at *
  exact ⟨(k - 1) / 308 - 1, by omega, by omega⟩

/-- Two divisions of little less than `w · (a · b)`, by little more than
`a` and `b` and with what is lost in rounding, leave half of `w` or
more. -/
theorem le_div_of_le_div {w e a b s p q y : ℚ} (hw : 4 * e ≤ w) (he : 0 < e) (hb : 1 ≤ b)
    (ha : 0 < a) (hs : 999 / 1000 * (w * (a * b)) ≤ s) (hp : 0 < p) (hpa : p ≤ 1001 / 1000 * a)
    (hq : 0 < q) (hqb : q ≤ 1001 / 1000 * b) (hy : s / p - s / p / 2 ^ 53 - e ≤ y) : 2 * e ≤ y / q := by
  have hwb : 0 < w * b := mul_pos (by linarith) (by linarith)
  have hsp : 99 / 100 * (w * b) ≤ s / p := by
    rw [le_div_iff₀ hp]
    calc 99 / 100 * (w * b) * p ≤ 99 / 100 * (w * b) * (1001 / 1000 * a) :=
          mul_le_mul_of_nonneg_left hpa (by linarith)
      _ ≤ 999 / 1000 * (w * (a * b)) := by nlinarith [mul_pos hwb ha]
      _ ≤ s := hs
  have hwb' : 4 * (e * b) ≤ w * b := by nlinarith
  have heb : e ≤ e * b := le_mul_of_one_le_right he.le hb
  rw [le_div_iff₀ hq]
  calc 2 * e * q ≤ 2 * e * (1001 / 1000 * b) := mul_le_mul_of_nonneg_left hqb (by linarith)
    _ = 1001 / 500 * (e * b) := by ring
    _ ≤ y := by linarith

section

variable {s k m : Nat} {z : Binary64}

/-- More than one division always ends below one. -/
theorem eq_zero_of_shrink (hs : s < 2 ^ 64) (hk : maxPower < k)
    (h : (shrink (kept s) ((k - 1) / maxPower)).div?
      (powerOfTen (k - maxPower * ((k - 1) / maxPower))) = some z) (hm : z.value = m) : m = 0 := by
  -- The first division leaves less than one, and the others do not make it larger.
  obtain ⟨times, htimes, hrest⟩ := exists_times hk
  rw [htimes] at h
  have hshrink := value_shrink_le (kept_le hs) times
  have hpower := half_le_powerOfTen hrest
  refine eq_zero_of_rounds (rounds_of_div? h) hm ?_
  rw [div_le_iff₀ (lt_of_lt_of_le (by norm_num) hpower)]
  linarith

/-- Numbers that are not small have no large negative exponent. -/
theorem exponent_lt (hs : s < 2 ^ 64) (hlarge : 1 / 10 ^ 323 ≤ (s : ℚ) / 10 ^ k) : k < 343 := by
  have hten : (0 : ℚ) < 10 := by norm_num
  have hsN : s < 10 ^ 20 := by omega
  have hsQ : (s : ℚ) < 10 ^ 20 := by exact_mod_cast hsN
  have hpow : (10 : ℚ) ^ k < 10 ^ 343 := by
    rw [div_le_div_iff₀ (pow_pos hten 323) (pow_pos hten k), one_mul] at hlarge
    calc (10 : ℚ) ^ k ≤ s * 10 ^ 323 := hlarge
      _ < 10 ^ 20 * 10 ^ 323 := mul_lt_mul_of_pos_right hsQ (pow_pos hten 323)
      _ = 10 ^ 343 := by rw [← pow_add]
  exact (pow_lt_pow_iff_right₀ (by norm_num)).mp hpow

/-- Dividing by the largest power of ten always works. -/
theorem shrink_kept_one (hs : s < 2 ^ 64) (hpos : 0 < s) :
    ∃ y, (kept s).div? (powerOfTen maxPower) = some y ∧ shrink (kept s) 1 = y := by
  have hmax := (powerOfTen_bounds (by decide) (le_refl maxPower)).1
  have hle : (kept s).value ≤ (powerOfTen maxPower).value := by linarith [kept_le hs]
  obtain ⟨y, hy⟩ := Option.isSome_iff_exists.mp
    (isSome_div? (lt_of_lt_of_le (by norm_num) hmax) hle)
  have hne : ¬ (kept s).significand = 0 := by
    intro hzero
    have hone : (1 : ℚ) ≤ s := by exact_mod_cast hpos
    linarith [le_kept hs hpos, value_eq_zero_iff.mpr hzero]
  exact ⟨y, hy, by rw [shrink, if_neg hne, hy, Option.getD_some, shrink]⟩

/-- Everything is lost in this way only if the number is small:
otherwise there are two divisions, and even both of them together leave
more than the least positive double. -/
theorem lt_of_shrink (hs : s < 2 ^ 64) (hk : maxPower < k)
    (h : (shrink (kept s) ((k - 1) / maxPower)).div?
      (powerOfTen (k - maxPower * ((k - 1) / maxPower))) = some z) (hm : z.value = m) :
    (s : ℚ) / 10 ^ k < 1 / 10 ^ 323 := by
  have hzero := eq_zero_of_shrink hs hk h hm
  by_contra hlarge
  rw [not_lt] at hlarge
  have hten : (0 : ℚ) < 10 := by norm_num
  -- A number that is not small has an exponent for which two divisions are enough.
  have hkle := exponent_lt hs hlarge
  have htimes : (k - 1) / maxPower = 1 := by
    unfold maxPower at *
    omega
  have hrest : k - maxPower ≤ maxPower := by
    unfold maxPower
    omega
  have hpos : 0 < s := by
    have hdiv : (0 : ℚ) < s / 10 ^ k := lt_of_lt_of_le (one_div_pos.mpr (pow_pos hten 323)) hlarge
    exact_mod_cast (div_pos_iff_of_pos_right (pow_pos hten k)).mp hdiv
  obtain ⟨y, hy, hshrink⟩ := shrink_kept_one hs hpos
  rw [htimes, Nat.mul_one, hshrink] at h
  have hyrounds := rounds_of_div? hy
  rw [Rounds, abs_le] at hyrounds
  have hfirst : (kept s).value / (powerOfTen maxPower).value -
      (kept s).value / (powerOfTen maxPower).value / 2 ^ 53 - halfUnit ≤ y.value := by
    linarith [hyrounds.1]
  have hsplit : 999 / 1000 * ((s : ℚ) / 10 ^ k * (10 ^ maxPower * 10 ^ (k - maxPower))) ≤
      (kept s).value := by
    rw [← pow_add, Nat.add_sub_cancel' hk.le, div_mul_cancel₀ _ (pow_pos hten k).ne']
    exact le_kept hs hpos
  -- What both divisions leave is not rounded to zero, against `hzero`.
  have hsecond : 2 * halfUnit ≤ y.value / (powerOfTen (k - maxPower)).value :=
    le_div_of_le_div (four_mul_halfUnit_le.trans hlarge) halfUnit_pos
      (one_le_pow₀ (by norm_num)) (pow_pos hten maxPower) hsplit
      (lt_of_lt_of_le (by norm_num) (half_le_powerOfTen (le_refl maxPower)))
      (powerOfTen_near (le_refl maxPower)).2
      (lt_of_lt_of_le (by norm_num) (half_le_powerOfTen hrest)) (powerOfTen_near hrest).2 hfirst
  have hzpos := pos_of_rounds (rounds_of_div? h) hsecond
  rw [hm, hzero, Nat.cast_zero] at hzpos
  exact lt_irrefl _ hzpos

end

/-! ### The three kinds of exponents -/

/-- A double for a significand and an exponent is a product, a quotient,
the outcome of more than one division, or zero. -/
theorem scaled?_cases {s : Nat} {k : Int} {x : Binary64} (h : scaled? s k = some x) :
    (∃ n : Nat, k = n ∧ n ≤ maxPower ∧ (kept s).mul? (powerOfTen n) = some x) ∨
    (∃ n : Nat, k = -n ∧ 0 < n ∧ n ≤ maxPower ∧ (kept s).div? (powerOfTen n) = some x) ∨
    (∃ n : Nat, k = -n ∧ maxPower < n ∧ (shrink (kept s) ((n - 1) / maxPower)).div?
      (powerOfTen (n - maxPower * ((n - 1) / maxPower))) = some x) ∨
    s = 0 ∧ x = .zero false := by
  unfold scaled? at h
  dsimp only at h
  rw [← kept] at h
  split at h
  · next hk =>
      split at h
      · next hle => exact .inl ⟨k.toNat, by omega, by omega, h⟩
      split at h
      · next hzero =>
          cases h
          exact .inr (.inr (.inr ⟨hzero, rfl⟩))
      · cases h
  · next hk =>
      by_cases hle : k.natAbs ≤ maxPower
      -- Up to the largest power the loop of divisions is not entered.
      · have htimes : (k.natAbs - 1) / maxPower = 0 := by
          unfold maxPower at *
          omega
        rw [htimes, Nat.mul_zero, Nat.sub_zero, shrink] at h
        exact .inr (.inl ⟨k.natAbs, by omega, by omega, hle, h⟩)
      · exact .inr (.inr (.inl ⟨k.natAbs, by omega, by omega, h⟩))

section

variable {s m : Nat} {k : Int} {x : Binary64}

/-- A whole number that is made from a significand of 53 bits is exact,
unless it is zero in place of a very small number. -/
theorem exact_of_scaled? (hs : s < 2 ^ 53) (h : scaled? s k = some x) (hm : x.value = m)
    (hle : m ≤ 2 ^ 53) :
    (m : ℚ) = s * 10 ^ k ∨ m = 0 ∧ (s : ℚ) * 10 ^ k < 1 / 10 ^ 323 := by
  rcases scaled?_cases h with ⟨n, rfl, hn, h⟩ | ⟨n, rfl, -, hn, h⟩ | ⟨n, rfl, hn, h⟩ | ⟨rfl, rfl⟩
  · have hproduct := eq_mul_of_mul? hs hn h hm hle
    refine .inl ?_
    rw [hproduct, zpow_natCast]
    push_cast
    rfl
  · rw [zpow_neg, zpow_natCast, ← div_eq_mul_inv]
    exact .inl (eq_div_of_div? hs hn h hm)
  · rw [zpow_neg, zpow_natCast, ← div_eq_mul_inv]
    exact .inr ⟨eq_zero_of_shrink (by omega) hn h hm, lt_of_shrink (by omega) hn h hm⟩
  · rw [← hm, value_eq_zero_iff.mpr rfl]
    simp

/-! ### Significands of more than 53 bits -/

/-- Products of large significands are beyond `2 ^ 53`. -/
theorem not_le_of_mul? {n : Nat} (hlow : 2 ^ 54 ≤ s * 10 ^ n) (hs : s < 2 ^ 64)
    (hn : n ≤ maxPower) (h : (kept s).mul? (powerOfTen n) = some x) (hm : x.value = m) :
    ¬ m ≤ 2 ^ 53 := by
  intro hle
  have hlt := le_of_rounds (rounds_of_mul? h) hm hle
  have hlowQ : (2 : ℚ) ^ 54 ≤ s * 10 ^ n := by exact_mod_cast hlow
  have hone : (1 : ℚ) ≤ 10 ^ n := one_le_pow₀ (by norm_num)
  have hpos : 0 < s := by
    by_contra hzero
    rw [Nat.eq_zero_of_not_pos hzero, Nat.zero_mul] at hlow
    omega
  have hkept := le_kept hs hpos
  have hproduct : 999 / 1000 * (s : ℚ) * (999 / 1000 * 10 ^ n) ≤
      (kept s).value * (powerOfTen n).value :=
    mul_le_mul hkept (powerOfTen_near hn).1 (by positivity) (value_nonneg _)
  linarith

/-- Large significands that are not divided are beyond `2 ^ 53`. -/
theorem not_le_of_scaled? (hlow : 2 ^ 54 ≤ s) (hs : s < 2 ^ 64) (hk : 0 ≤ k)
    (h : scaled? s k = some x) (hm : x.value = m) : ¬ m ≤ 2 ^ 53 := by
  rcases scaled?_cases h with ⟨n, rfl, hn, h⟩ | ⟨n, rfl, hpos, -⟩ | ⟨n, rfl, hpos, -⟩ | ⟨rfl, -⟩
  · have hone : 1 ≤ 10 ^ n := Nat.one_le_pow _ _ (by decide)
    exact not_le_of_mul? (by nlinarith) hs hn h hm
  all_goals omega

/-- A large significand as it is. -/
theorem near_of_mul? (hlow : 2 ^ 53 ≤ s) (hs : s < 2 ^ 64)
    (h : (kept s).mul? (powerOfTen 0) = some x) (hm : x.value = m) :
    |(m : ℚ) - s| ≤ 3 * s / 2 ^ 53 := by
  have hhalf := halfUnit_lt
  have hrounds := rounds_of_mul? h
  rw [value_powerOfTen (by decide), pow_zero, mul_one, Rounds, hm, abs_le] at hrounds
  obtain ⟨hdown, hup⟩ := kept_bounds hs
  have hsQ : (2 : ℚ) ^ 53 ≤ s := by exact_mod_cast hlow
  rw [abs_le]
  constructor <;> linarith [hrounds.1, hrounds.2]

/-- A large significand divided by a power of ten that is a double. -/
theorem near_of_div? {n : Nat} (hlow : 2 ^ 53 ≤ s) (hs : s < 2 ^ 64) (hn : n < 23)
    (h : (kept s).div? (powerOfTen n) = some x) (hm : x.value = m) :
    |(m : ℚ) - s / 10 ^ n| ≤ 3 * (s / 10 ^ n) / 2 ^ 53 := by
  have hhalf := halfUnit_lt
  have hrounds := rounds_of_div? h
  rw [value_powerOfTen hn, Rounds, hm, abs_le] at hrounds
  have hone : (1 : ℚ) ≤ 10 ^ n := one_le_pow₀ (by norm_num)
  have hpos : (0 : ℚ) < 10 ^ n := by positivity
  have hquotient : |(kept s).value / 10 ^ n - s / 10 ^ n| ≤ s / 10 ^ n / 2 ^ 53 + halfUnit := by
    rw [← sub_div, abs_div, abs_of_pos hpos, div_le_iff₀ hpos]
    calc |(kept s).value - s| ≤ s / 2 ^ 53 + halfUnit := rounds_kept hs
      _ ≤ s / 2 ^ 53 + halfUnit * 10 ^ n :=
        add_le_add_right (le_mul_of_one_le_right halfUnit_pos.le hone) _
      _ = (s / 10 ^ n / 2 ^ 53 + halfUnit) * 10 ^ n := by field_simp
  have hsQ : (2 : ℚ) ^ 53 ≤ s := by exact_mod_cast hlow
  -- Half of the least positive double is nothing beside a quotient of that size.
  have hlarge : (1 : ℚ) / 10 ^ 10 ≤ s / 10 ^ n := by
    have hpow : (10 : ℚ) ^ n ≤ 10 ^ 22 := pow_le_pow_right₀ (by norm_num) (by omega)
    rw [le_div_iff₀ hpos]
    linarith
  rw [abs_le] at hquotient ⊢
  constructor <;> linarith [hrounds.1, hrounds.2, hquotient.1, hquotient.2]

/-- A whole number that is made from a large significand is close to
what it stands for, unless it is zero in place of a very small number. -/
theorem near_of_scaled? (hlow : 2 ^ 53 ≤ s) (hs : s < 2 ^ 64) (h : scaled? s k = some x)
    (hm : x.value = m) (hle : m ≤ 2 ^ 53) :
    |(m : ℚ) - s * 10 ^ k| ≤ 3 * (s * 10 ^ k) / 2 ^ 53 ∨
      m = 0 ∧ (s : ℚ) * 10 ^ k < 1 / 10 ^ 323 := by
  rcases scaled?_cases h with ⟨n, rfl, hn, h⟩ | ⟨n, rfl, -, hn, h⟩ | ⟨n, rfl, hn, h⟩ | ⟨rfl, -⟩
  · cases n with
    | zero =>
        refine .inl ?_
        rw [Nat.cast_zero, zpow_zero, mul_one]
        exact near_of_mul? hlow hs h hm
    | succ n =>
        have hone : 10 ≤ 10 ^ (n + 1) := Nat.le_self_pow (by omega) 10
        exact absurd hle (not_le_of_mul? (by nlinarith) hs hn h hm)
  · rw [zpow_neg, zpow_natCast, ← div_eq_mul_inv]
    by_cases hsmall : n < 23
    · exact .inl (near_of_div? hlow hs hsmall h hm)
    · have hzero := eq_zero_of_large hs (by omega) hn h hm
      omega
  · rw [zpow_neg, zpow_natCast, ← div_eq_mul_inv]
    exact .inr ⟨eq_zero_of_shrink hs hn h hm, lt_of_shrink hs hn h hm⟩
  · omega

/-- The same for what a significand is cut from. -/
theorem close_of_scaled? {v : ℚ} (hlow : 2 ^ 53 ≤ s) (hs : s < 2 ^ 64)
    (h : scaled? s k = some x) (hm : x.value = m) (hle : m ≤ 2 ^ 53)
    (hcut : |v - s * 10 ^ k| ≤ s * 10 ^ k / 2 ^ 59) :
    |(m : ℚ) - v| ≤ v / 2 ^ 51 ∨ m = 0 ∧ v < 1 / 10 ^ 322 := by
  have hpos : (0 : ℚ) ≤ s * 10 ^ k := mul_nonneg (Nat.cast_nonneg s) (zpow_nonneg (by norm_num) k)
  rw [abs_le] at hcut
  rcases near_of_scaled? hlow hs h hm hle with hnear | ⟨hzero, hsmall⟩
  · rw [abs_le] at hnear
    refine .inl (abs_le.mpr ?_)
    constructor <;> linarith [hnear.1, hnear.2, hcut.1, hcut.2]
  · refine .inr ⟨hzero, ?_⟩
    have hsplit : (1 : ℚ) / 10 ^ 322 = 10 * (1 / 10 ^ 323) := by
      rw [show (10 : ℚ) ^ 323 = 10 ^ 322 * 10 from pow_succ 10 322, ← div_div,
        mul_div_cancel₀ _ (by norm_num)]
    rw [hsplit]
    -- The powers are too large for `linarith` to evaluate.
    generalize (1 : ℚ) / 10 ^ 323 = limit at hsmall ⊢
    linarith [hcut.2]

end

end FilterSql.Json
