import FilterSql.Literal
import FilterSql.Proofs.Json.Scaling

/-!
# `FilterSql.Proofs.Json.Numeral`: what is written and what is bound

A numeral stands for an exact rational number, `Numeral.value`. What is
bound for it as a parameter is a decimal integer. The two are the same
for numerals that have neither point nor exponent, for those whose
digits, read without the point, make a number below `2 ^ 53`, and for
whole numbers below `2 ^ 51` (`Numeral.Carried`). Other numerals are
rounded on the way, by at most one part in `2 ^ 51`, and those that are
so small that no double but zero is near are lost.

* `Numeral.exact_of_double?`: the double for few digits.
* `Numeral.close_of_double?`: the double for any digits.
* `Numeral.BoundAs`: what a parameter says about a numeral.
-/

set_option autoImplicit false

namespace FilterSql.Json

open Binary64

/-! ### Digits -/

/-- The number that is left when digits are written behind another
number. -/
def appendDigits (s : Nat) (digits : List Char) : Nat :=
  digits.foldl (fun n c => 10 * n + digitValue c) s

/-- Digits by themselves are appended to zero. -/
theorem digitsValue_eq (digits : List Char) : digitsValue digits = appendDigits 0 digits := by
  rw [digitsValue, appendDigits]

theorem appendDigits_cons (s : Nat) (c : Char) (digits : List Char) :
    appendDigits s (c :: digits) = appendDigits (10 * s + digitValue c) digits := by
  simp only [appendDigits, List.foldl_cons]

/-- Two rows of digits are appended one after the other. -/
theorem appendDigits_append (s : Nat) (front back : List Char) :
    appendDigits s (front ++ back) = appendDigits (appendDigits s front) back := by
  simp only [appendDigits, List.foldl_append]

/-- What digits add to a number in front of them. -/
theorem appendDigits_eq (s : Nat) (digits : List Char) :
    appendDigits s digits = s * 10 ^ digits.length + digitsValue digits := by
  rw [digitsValue_eq]
  induction digits generalizing s with
  | nil => simp [appendDigits]
  | cons c digits ih =>
      rw [appendDigits_cons, appendDigits_cons, ih, ih (10 * 0 + digitValue c), List.length_cons,
        Nat.pow_succ]
      ring

/-- Appending digits makes no number smaller. -/
theorem le_appendDigits (s : Nat) (digits : List Char) : s ≤ appendDigits s digits := by
  rw [appendDigits_eq]
  exact Nat.le_add_right_of_le (Nat.le_mul_of_pos_right s (Nat.pow_pos (by decide)))

/-- The value of two rows of digits. -/
theorem digitsValue_append (front back : List Char) :
    digitsValue (front ++ back) = digitsValue front * 10 ^ back.length + digitsValue back := by
  rw [digitsValue_eq, appendDigits_append, appendDigits_eq, ← digitsValue_eq]

/-- A digit is at most nine. -/
theorem digitValue_le {c : Char} (hc : c.isDigit = true) : digitValue c ≤ 9 := by
  simp only [Char.isDigit, Bool.and_eq_true, decide_eq_true_eq, UInt32.le_iff_toNat_le] at hc
  have hupper : c.toNat ≤ 57 := hc.2
  unfold digitValue
  omega

/-- The value of digits is bounded by their number. -/
theorem digitsValue_lt {digits : List Char} (h : ∀ c ∈ digits, c.isDigit = true) :
    digitsValue digits < 10 ^ digits.length := by
  induction digits with
  | nil => decide
  | cons c digits ih =>
      rw [List.forall_mem_cons] at h
      have hc := digitValue_le h.1
      have hrest := ih h.2
      rw [digitsValue_eq, appendDigits_cons, appendDigits_eq, List.length_cons, Nat.pow_succ]
      nlinarith

/-! ### Digits that are kept -/

/-- The digits are cut in two: those in front are kept. -/
theorem absorb_spec (s : Nat) (digits : List Char) :
    ∃ front, digits = front ++ (absorb s digits).2 ∧
      (absorb s digits).1 = appendDigits s front := by
  induction digits generalizing s with
  | nil => exact ⟨[], rfl, rfl⟩
  | cons c digits ih =>
      rw [absorb]
      split
      · obtain ⟨front, hdigits, hvalue⟩ := ih (10 * s + digitValue c)
        refine ⟨c :: front, ?_, ?_⟩
        · rw [List.cons_append, ← hdigits]
        · rw [hvalue, appendDigits_cons]
      · exact ⟨[], rfl, rfl⟩

/-- The significand stays within 64 bits. -/
theorem absorb_lt {s : Nat} (hs : s < 2 ^ 64) (digits : List Char) :
    (absorb s digits).1 < 2 ^ 64 := by
  induction digits generalizing s with
  | nil => exact hs
  | cons c digits ih =>
      rw [absorb]
      split
      · next hlt => exact ih (by rwa [Nat.one_shiftLeft] at hlt)
      · exact hs

/-- Digits are left only if there was no room for the next one. -/
theorem absorb_full (s : Nat) {digits : List Char} (hdigits : ∀ c ∈ digits, c.isDigit = true)
    (h : (absorb s digits).2 ≠ []) : 2 ^ 64 ≤ 10 * (absorb s digits).1 + 9 := by
  induction digits generalizing s with
  | nil => exact absurd rfl h
  | cons c digits ih =>
      rw [List.forall_mem_cons] at hdigits
      rw [absorb] at h ⊢
      split at h
      · next hlt =>
          rw [if_pos hlt]
          exact ih _ hdigits.2 h
      · next hlt =>
          rw [if_neg hlt]
          have hc := digitValue_le hdigits.1
          rw [Nat.one_shiftLeft] at hlt
          dsimp only
          omega

/-- Few digits are all kept. -/
theorem absorb_of_lt {s : Nat} {digits : List Char} (h : appendDigits s digits < 2 ^ 64) :
    absorb s digits = (appendDigits s digits, []) := by
  induction digits generalizing s with
  | nil => rfl
  | cons c digits ih =>
      rw [appendDigits_cons] at h ⊢
      have hlt : 10 * s + digitValue c < 1 <<< 64 := by
        rw [Nat.one_shiftLeft]
        exact lt_of_le_of_lt (le_appendDigits _ _) h
      rw [absorb, if_pos hlt]
      exact ih h

/-- An exponent that is in range is not above the largest one. -/
theorem le_of_beyond? {s : Nat} (hs : s ≤ maxExponent) {digits : List Char}
    (h : beyond? s digits = none) : appendDigits s digits ≤ maxExponent := by
  induction digits generalizing s with
  | nil => exact hs
  | cons c digits ih =>
      rw [beyond?] at h
      rw [appendDigits_cons]
      split at h
      · cases h
      · next hle => exact ih (Nat.le_of_not_lt hle) h

/-- One that is out of range is above it. -/
theorem lt_of_beyond? {s : Nat} {digits rest : List Char} (h : beyond? s digits = some rest) :
    maxExponent < appendDigits s digits := by
  induction digits generalizing s with
  | nil => cases h
  | cons c digits ih =>
      rw [beyond?] at h
      rw [appendDigits_cons]
      split at h
      · next hlt => exact lt_of_lt_of_le hlt (le_appendDigits _ _)
      · exact ih h

namespace Numeral

/-! ### The value of a numeral -/

/-- The absolute value of what is written in front of the exponent. -/
def mantissa (n : Numeral) : ℚ :=
  digitsValue n.whole + digitsValue n.fraction / 10 ^ n.fraction.length

/-- The written exponent; none is zero. -/
def power (n : Numeral) : Int :=
  n.exponent.elim 0 Exponent.value

/-- The absolute value of a numeral as it is written. -/
def magnitude (n : Numeral) : ℚ :=
  n.mantissa * 10 ^ n.power

/-- Magnitudes have no sign. -/
theorem magnitude_nonneg (n : Numeral) : 0 ≤ n.magnitude := by
  refine mul_nonneg ?_ (zpow_nonneg (by norm_num) _)
  unfold mantissa
  positivity

/-- The value of a numeral as it is written. -/
def value (n : Numeral) : ℚ :=
  if n.negative then -n.magnitude else n.magnitude

/-- All digits are decimal digits. -/
structure IsDecimal (n : Numeral) : Prop where
  whole : ∀ c ∈ n.whole, c.isDigit = true
  fraction : ∀ c ∈ n.fraction, c.isDigit = true

/-- The number that the digits make without the point. -/
def digits (n : Numeral) : Nat :=
  digitsValue (n.whole ++ n.fraction)

/-- The mantissa from all digits together. -/
theorem mantissa_eq (n : Numeral) : n.mantissa = n.digits * 10 ^ (-(n.fraction.length : Int)) := by
  rw [mantissa, digits, digitsValue_append, zpow_neg, zpow_natCast]
  push_cast
  field_simp

variable {n : Numeral}

/-- Zeros alone are zero, whatever the exponent. -/
theorem magnitude_of_digits (h : n.digits = 0) : n.magnitude = 0 := by
  rw [magnitude, mantissa_eq, h, Nat.cast_zero, zero_mul, zero_mul]

/-- Few digits are the significand. -/
theorem significand_of_lt (h : n.digits < 2 ^ 64) :
    n.significand = (n.digits, -(n.fraction.length : Int)) := by
  have hdigits : n.digits = appendDigits (digitsValue n.whole) n.fraction := by
    rw [digits, digitsValue_append, appendDigits_eq]
  have hwhole : absorb 0 n.whole = (digitsValue n.whole, []) := by
    rw [digitsValue_eq]
    refine absorb_of_lt (lt_of_le_of_lt ?_ h)
    rw [hdigits, digitsValue_eq]
    exact le_appendDigits _ _
  have hfraction : absorb (digitsValue n.whole) n.fraction = (n.digits, []) := by
    rw [hdigits] at h ⊢
    exact absorb_of_lt h
  simp only [significand, hwhole, hfraction, List.length_nil]
  simp

/-- The significand fits into 64 bits. -/
theorem significand_lt (n : Numeral) : n.significand.1 < 2 ^ 64 :=
  absorb_lt (absorb_lt (by decide) n.whole) n.fraction

/-- Without a fraction no digit lowers the power. -/
theorem significand_nonneg (h : n.fraction = []) : 0 ≤ n.significand.2 := by
  simp [significand, h, absorb]

/-- Digits that are lost behind the point. -/
theorem abs_sub_le_of_dropped {s g b A R : ℚ} (hA : 0 < A) (hR : 0 < R) (hs : 2 ^ 60 ≤ s * A + g)
    (hb : 0 ≤ b) (hlt : b < R) :
    |s + (g * R + b) / (A * R) - (s * A + g) * (1 / A)| ≤ (s * A + g) * (1 / A) / 2 ^ 59 := by
  have hdiff : s + (g * R + b) / (A * R) - (s * A + g) * (1 / A) = b / R / A := by
    field_simp
    ring
  have hpart : b / R ≤ 1 := (div_le_one hR).mpr hlt.le
  rw [hdiff, abs_of_nonneg (div_nonneg (div_nonneg hb hR.le) hA.le)]
  calc b / R / A ≤ 1 / A := div_le_div_of_nonneg_right hpart hA.le
    _ ≤ (s * A + g) / 2 ^ 59 * (1 / A) := le_mul_of_one_le_left (one_div_pos.mpr hA).le (by linarith)
    _ = (s * A + g) * (1 / A) / 2 ^ 59 := by ring

/-- Digits that are lost in front of the point. Some behind it may still
be kept, in their place. -/
theorem abs_sub_le_of_lost {s w f g A L : ℚ} (hA : 0 < A) (hL : 0 < L) (hs : 2 ^ 60 ≤ s)
    (hw : 0 ≤ w) (hwL : w + 1 ≤ L) (hf : 0 ≤ f) (hf1 : f < 1) (hg : 0 ≤ g) (hgA : g < A) :
    |s * L + w + f - (s * A + g) * (L / A)| ≤ (s * A + g) * (L / A) / 2 ^ 59 := by
  have hsplit : (s * A + g) * (L / A) = s * L + g / A * L := by
    field_simp
  have hpart : g / A ≤ 1 := (div_le_one hA).mpr hgA.le
  have hnonneg : 0 ≤ g / A := div_nonneg hg hA.le
  -- What is kept of the fraction comes to at most one of the last place, which is worth `L`.
  have hprod : g / A * L ≤ L := mul_le_of_le_one_left hL.le hpart
  have hprod' : 0 ≤ g / A * L := mul_nonneg hnonneg hL.le
  have hlarge : 2 ^ 60 * L ≤ s * L := mul_le_mul_of_nonneg_right hs hL.le
  rw [hsplit, abs_le]
  constructor <;> linarith

/-- How the digits are cut. They are lost only where there is no room. -/
theorem significand_cut (hn : n.IsDecimal) :
    ∃ whole lost fraction dropped, n.whole = whole ++ lost ∧ n.fraction = fraction ++ dropped ∧
      n.significand = (digitsValue whole * 10 ^ fraction.length + digitsValue fraction,
        (lost.length : Int) - (fraction.length : Int)) ∧
      (lost ≠ [] → 2 ^ 64 ≤ 10 * digitsValue whole + 9) ∧
      (dropped ≠ [] →
        2 ^ 64 ≤ 10 * (digitsValue whole * 10 ^ fraction.length + digitsValue fraction) + 9) := by
  obtain ⟨whole, hwhole, hs⟩ := absorb_spec 0 n.whole
  obtain ⟨fraction, hfraction, ht⟩ := absorb_spec (absorb 0 n.whole).1 n.fraction
  have hfullWhole := absorb_full 0 hn.whole
  have hfullFraction := absorb_full (absorb 0 n.whole).1 hn.fraction
  rw [← digitsValue_eq] at hs
  have ht' : (absorb (absorb 0 n.whole).1 n.fraction).1 =
      digitsValue whole * 10 ^ fraction.length + digitsValue fraction := by
    rw [ht, appendDigits_eq, hs]
  -- The power counts the digits of the fraction that were kept, as a difference of lengths.
  have hlength := congrArg List.length hfraction
  rw [List.length_append] at hlength
  refine ⟨whole, _, fraction, _, hwhole, hfraction, ?_, ?_, ?_⟩
  · simp only [significand, Prod.mk.injEq]
    exact ⟨ht', by omega⟩
  · rwa [← hs]
  · rwa [← ht']

section

variable {whole lost fraction dropped : List Char}

/-- Only digits behind the point are lost. -/
theorem near_of_dropped (hn : n.IsDecimal) (hwhole : n.whole = whole)
    (hfraction : n.fraction = fraction ++ dropped)
    (hlarge : 2 ^ 60 ≤ digitsValue whole * 10 ^ fraction.length + digitsValue fraction) :
    |n.mantissa - (digitsValue whole * 10 ^ fraction.length + digitsValue fraction : Nat) *
        10 ^ (-(fraction.length : Int))| ≤
      (digitsValue whole * 10 ^ fraction.length + digitsValue fraction : Nat) *
        10 ^ (-(fraction.length : Int)) / 2 ^ 59 := by
  have hpow : ∀ k : Nat, (0 : ℚ) < 10 ^ k := fun k => by positivity
  have hlargeQ : (2 : ℚ) ^ 60 ≤ digitsValue whole * 10 ^ fraction.length + digitsValue fraction := by
    exact_mod_cast hlarge
  have hback : (digitsValue dropped : ℚ) < 10 ^ dropped.length := by
    exact_mod_cast digitsValue_lt fun c hc =>
      hn.fraction c (hfraction ▸ List.mem_append_right fraction hc)
  have hnear := abs_sub_le_of_dropped (hpow fraction.length) (hpow dropped.length) hlargeQ
    (Nat.cast_nonneg _) hback
  rw [mantissa, hwhole, hfraction, digitsValue_append, List.length_append, pow_add, zpow_neg,
    zpow_natCast, ← one_div]
  push_cast
  exact hnear

/-- Digits in front of the point are lost, and then others behind it. -/
theorem near_of_lost (hn : n.IsDecimal) (hwhole : n.whole = whole ++ lost)
    (hfraction : n.fraction = fraction ++ dropped) (hlarge : 2 ^ 60 ≤ digitsValue whole) :
    |n.mantissa - (digitsValue whole * 10 ^ fraction.length + digitsValue fraction : Nat) *
        10 ^ ((lost.length : Int) - (fraction.length : Int))| ≤
      (digitsValue whole * 10 ^ fraction.length + digitsValue fraction : Nat) *
        10 ^ ((lost.length : Int) - (fraction.length : Int)) / 2 ^ 59 := by
  have hten : (10 : ℚ) ≠ 0 := by norm_num
  have hpow : ∀ k : Nat, (0 : ℚ) < 10 ^ k := fun k => by positivity
  have hdigits : ∀ c ∈ fraction ++ dropped, c.isDigit = true := hfraction ▸ hn.fraction
  have hlargeQ : (2 : ℚ) ^ 60 ≤ digitsValue whole := by exact_mod_cast hlarge
  have hlostQ : (digitsValue lost : ℚ) + 1 ≤ 10 ^ lost.length := by
    exact_mod_cast digitsValue_lt fun c hc => hn.whole c (hwhole ▸ List.mem_append_right whole hc)
  have hfrontQ : (digitsValue fraction : ℚ) < 10 ^ fraction.length := by
    exact_mod_cast digitsValue_lt fun c hc => hdigits c (List.mem_append_left dropped hc)
  have hbackQ : (digitsValue (fraction ++ dropped) : ℚ) < 10 ^ (fraction ++ dropped).length := by
    exact_mod_cast digitsValue_lt hdigits
  have hnear := abs_sub_le_of_lost (hpow fraction.length) (hpow lost.length) hlargeQ
    (Nat.cast_nonneg _) hlostQ (by positivity) ((div_lt_one (by positivity)).mpr hbackQ)
    (Nat.cast_nonneg _) hfrontQ
  rw [mantissa, hwhole, hfraction, digitsValue_append whole lost, zpow_sub₀ hten, zpow_natCast,
    zpow_natCast]
  push_cast at hnear ⊢
  exact hnear

end

/-- The significand is all of the digits, or so large that what is lost
with the others does not count for much. -/
theorem significand_cases (hn : n.IsDecimal) :
    n.significand = (n.digits, -(n.fraction.length : Int)) ∨
      2 ^ 60 ≤ n.significand.1 ∧
        |n.mantissa - n.significand.1 * 10 ^ n.significand.2| ≤
          n.significand.1 * 10 ^ n.significand.2 / 2 ^ 59 := by
  obtain ⟨whole, lost, fraction, dropped, hwhole, hfraction, hcut, hlost, hdropped⟩ :=
    significand_cut hn
  rw [hcut]
  by_cases hlostNil : lost = []
  · subst hlostNil
    rw [List.append_nil] at hwhole
    rw [List.length_nil, Nat.cast_zero, zero_sub]
    by_cases hdroppedNil : dropped = []
    · subst hdroppedNil
      refine .inl ?_
      rw [digits, hwhole, hfraction, List.append_nil, digitsValue_append]
    · have hfull := hdropped hdroppedNil
      have hlarge : 2 ^ 60 ≤ digitsValue whole * 10 ^ fraction.length + digitsValue fraction := by
        omega
      exact .inr ⟨hlarge, near_of_dropped hn hwhole hfraction hlarge⟩
  · have hfull := hlost hlostNil
    have hlarge : 2 ^ 60 ≤ digitsValue whole := by omega
    refine .inr ⟨?_, near_of_lost hn hwhole hfraction hlarge⟩
    have hle : digitsValue whole ≤ digitsValue whole * 10 ^ fraction.length :=
      Nat.le_mul_of_pos_right _ (Nat.pow_pos (by decide))
    dsimp only
    omega

/-! ### Doubles for numerals -/

/-- The exponent is taken at its value. -/
def InRange (n : Numeral) : Prop :=
  ∀ e ∈ n.exponent, digitsValue e.digits ≤ maxExponent

/-- Without an exponent a numeral is in range. -/
theorem inRange_of_exponent (h : n.exponent = none) : n.InRange := by
  intro e he
  rw [h] at he
  cases he

/-- In range, the double is the scaled significand. -/
theorem double?_of_inRange (h : n.InRange) :
    n.double? = scaled? n.significand.1 (n.significand.2 + n.power) := by
  unfold double? power
  cases hexponent : n.exponent with
  | none => simp
  | some e =>
      -- Digits are only seen to go beyond the bound if their value does.
      have hbeyond : beyond? 0 e.digits = none := by
        by_contra hne
        obtain ⟨rest, hrest⟩ := Option.ne_none_iff_exists'.mp hne
        have hlt := lt_of_beyond? hrest
        have hle := h e hexponent
        rw [digitsValue_eq] at hle
        omega
      simp [hbeyond]

/-- Beyond all bounds an exponent makes zero of everything. -/
theorem double?_of_not_inRange (h : ¬ n.InRange) {x : Binary64} (hx : n.double? = some x) :
    x = .zero false ∧ (n.significand.1 = 0 ∨ n.power < -maxExponent) := by
  obtain ⟨e, hexponent, hlarge⟩ : ∃ e, n.exponent = some e ∧ maxExponent < digitsValue e.digits := by
    by_contra hall
    refine h fun e he => ?_
    by_contra hlt
    exact hall ⟨e, he, by omega⟩
  -- Conversely a value beyond the bound is noticed at some digit.
  have hbeyond : beyond? 0 e.digits ≠ none := by
    intro hnone
    have hle := le_of_beyond? (Nat.zero_le _) hnone
    rw [← digitsValue_eq] at hle
    omega
  obtain ⟨rest, hrest⟩ := Option.ne_none_iff_exists'.mp hbeyond
  unfold double? at hx
  simp only [hexponent, hrest] at hx
  split at hx
  · cases hx
  · next hzero =>
      cases hx
      refine ⟨rfl, ?_⟩
      cases hnegative : e.negative with
      | false =>
          refine .inl ?_
          simpa [hnegative] using hzero
      | true =>
          refine .inr ?_
          rw [power, hexponent, Option.elim_some, Exponent.value, if_pos hnegative]
          omega

variable {x : Binary64} {m : Nat}

/-- Few digits with an exponent beyond all bounds. -/
theorem magnitude_lt (hlt : n.digits < 2 ^ 53) (hpower : n.power < -maxExponent) :
    n.magnitude < 1 / 10 ^ 323 := by
  have hten : (1 : ℚ) ≤ 10 := by norm_num
  have hdigits : (n.digits : ℚ) < 10 ^ 16 := by
    have hle : n.digits < 10 ^ 16 := by omega
    exact_mod_cast hle
  have hmantissa : n.mantissa < 10 ^ 16 := by
    rw [mantissa_eq]
    have hone : (10 : ℚ) ^ (-(n.fraction.length : Int)) ≤ 1 := zpow_le_one_of_nonpos₀ hten (by omega)
    exact lt_of_le_of_lt (mul_le_of_le_one_right (Nat.cast_nonneg _) hone) hdigits
  -- The digits come to less than `10 ^ 16`, which leaves `10 ^ 323` of the power.
  have htail : (10 : ℚ) ^ n.power ≤ 10 ^ (-339 : Int) := by
    refine zpow_le_zpow_right₀ hten ?_
    unfold maxExponent at hpower
    omega
  calc n.mantissa * 10 ^ n.power < 10 ^ 16 * 10 ^ n.power :=
        mul_lt_mul_of_pos_right hmantissa (zpow_pos (by norm_num) _)
    _ ≤ 10 ^ 16 * 10 ^ (-339 : Int) := mul_le_mul_of_nonneg_left htail (by norm_num)
    _ = 1 / 10 ^ 323 := by
        have hsplit : (10 : ℚ) ^ (-339 : Int) = 1 / (10 ^ 16 * 10 ^ 323) := by
          rw [← pow_add, zpow_neg, one_div]
          rfl
        rw [hsplit, mul_one_div, div_mul_cancel_left₀ (by norm_num), one_div]

/-- A numeral with few digits is carried over exactly, or it vanishes. -/
theorem exact_of_double? (hlt : n.digits < 2 ^ 53) (h : n.double? = some x) (hm : x.value = m)
    (hle : m ≤ 2 ^ 53) : (m : ℚ) = n.magnitude ∨ m = 0 ∧ n.magnitude < 1 / 10 ^ 323 := by
  have hten : (10 : ℚ) ≠ 0 := by norm_num
  have hsignificand := significand_of_lt (n := n) (by omega)
  by_cases hrange : n.InRange
  · rw [double?_of_inRange hrange, hsignificand] at h
    have hexact := exact_of_scaled? hlt h hm hle
    rwa [zpow_add₀ hten, ← mul_assoc, ← mantissa_eq] at hexact
  · obtain ⟨rfl, hcause⟩ := double?_of_not_inRange hrange h
    rw [value_eq_zero_iff.mpr rfl] at hm
    rcases hcause with hzero | hpower
    · rw [hsignificand] at hzero
      exact .inl (by rw [← hm, magnitude_of_digits hzero])
    · exact .inr ⟨by exact_mod_cast hm.symm, magnitude_lt hlt hpower⟩

/-- What is made of a numeral is close to it, or it vanishes. -/
theorem close_of_double? (hn : n.IsDecimal) (hrange : n.InRange) (h : n.double? = some x)
    (hm : x.value = m) (hle : m ≤ 2 ^ 53) :
    |(m : ℚ) - n.magnitude| ≤ n.magnitude / 2 ^ 51 ∨ m = 0 ∧ n.magnitude < 1 / 10 ^ 322 := by
  have hten : (10 : ℚ) ≠ 0 := by norm_num
  by_cases hlt : n.digits < 2 ^ 53
  · rcases exact_of_double? hlt h hm hle with hexact | ⟨hzero, hsmall⟩
    · refine .inl ?_
      rw [hexact, sub_self, abs_zero]
      exact div_nonneg n.magnitude_nonneg (by norm_num)
    · refine .inr ⟨hzero, hsmall.trans_le ?_⟩
      exact one_div_le_one_div_of_le (pow_pos (by norm_num) 322)
        (pow_le_pow_right₀ (by norm_num) (by decide))
  · rw [double?_of_inRange hrange] at h
    have hpow : (0 : ℚ) < 10 ^ n.power := zpow_pos (by norm_num) _
    -- If all digits were kept there is nothing between the two.
    have hcut : |n.mantissa - n.significand.1 * 10 ^ n.significand.2| ≤
        n.significand.1 * 10 ^ n.significand.2 / 2 ^ 59 := by
      rcases significand_cases hn with hall | ⟨-, hcut⟩
      · rw [hall, mantissa_eq, sub_self, abs_zero]
        exact div_nonneg (mul_nonneg (Nat.cast_nonneg _) (zpow_nonneg (by norm_num) _)) (by norm_num)
      · exact hcut
    have hlow : 2 ^ 53 ≤ n.significand.1 := by
      rcases significand_cases hn with hall | ⟨hlarge, -⟩
      · rw [hall]
        exact Nat.le_of_not_lt hlt
      · omega
    refine close_of_scaled? hlow n.significand_lt h hm hle ?_
    rw [magnitude, zpow_add₀ hten, ← mul_assoc, ← sub_mul, abs_mul, abs_of_pos hpow,
      mul_div_right_comm]
    exact mul_le_mul_of_nonneg_right hcut hpow.le

/-- A numeral without point and exponent whose digits do not fit into 64
bits, or hardly, is too large. -/
theorem not_le_of_plain (hn : n.IsDecimal) (hfraction : n.fraction = [])
    (hexponent : n.exponent = none) (hlarge : 2 ^ 63 < n.digits) (h : n.double? = some x)
    (hm : x.value = m) : ¬ m ≤ 2 ^ 53 := by
  have hpower : n.power = 0 := by rw [power, hexponent, Option.elim_none]
  -- Kept or not, the digits leave a significand that no double up to `2 ^ 53` is near to.
  have hlow : 2 ^ 54 ≤ n.significand.1 := by
    rcases significand_cases hn with hall | ⟨hlow, -⟩
    · rw [hall]
      dsimp only
      omega
    · omega
  rw [double?_of_inRange (inRange_of_exponent hexponent), hpower, add_zero] at h
  exact not_le_of_scaled? hlow n.significand_lt (significand_nonneg hfraction) h hm

/-! ### What is bound -/

/-- The numerals that are bound as they are written, if at all: integers
without point and exponent, numerals whose digits make less than
`2 ^ 53` without the point, unless they are not zero but very small, and
whole numbers below `2 ^ 51` however they are written. -/
inductive Carried (n : Numeral) : Prop where
  | plain (fraction : n.fraction = []) (exponent : n.exponent = none)
  | short (digits : n.digits < 2 ^ 53) (size : n.value = 0 ∨ 1 / 10 ^ 323 ≤ |n.value|)
  | whole (range : n.InRange) (whole : ∃ i : Int, n.value = i) (size : |n.value| < 2 ^ 51)

/-- A parameter is bound for a numeral: it is a decimal integer, the
value of the numeral if that is carried over, and close to it in any
case but that of a very small numeral, which is taken for zero. An
exponent that is not taken at its value makes it zero as well. -/
def BoundAs (n : Numeral) (param : String) : Prop :=
  ∃ p : Int, param.toInt? = some p ∧ (n.Carried → (p : ℚ) = n.value) ∧
    (n.InRange →
      |(p : ℚ) - n.value| ≤ |n.value| / 2 ^ 51 ∨ p = 0 ∧ |n.value| < 1 / 10 ^ 322) ∧
    (¬ n.InRange → p = 0)

end Numeral

end FilterSql.Json
