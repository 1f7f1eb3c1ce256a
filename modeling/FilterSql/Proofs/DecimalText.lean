import FilterSql.Proofs.Json.Grammar
import FilterSql.Proofs.LiteralValues

/-!
# `FilterSql.Proofs.DecimalText`: the text of a number is exact

A number that is bound becomes a decimal text. An integer is written as
it is. A double is held as a significand and a power of two, so its
decimal text is a different form of the number, and one that might have
been rounded. `Number.exactValue` is the value in terms of significand
and power; the text is compared with it digit by digit.

* `whole_toDigits`, `digitsValue_toDigits`: decimal digits are spelled
  without needless zeros, and they are the number.
* `Number.eq_negativeZero`: only one number is zero with a minus sign.
-/

set_option autoImplicit false

namespace FilterSql.Json

/-! ### Decimal digits -/

/-- The digits of a number above zero do not start with a zero. The
induction takes the last digit off. -/
theorem exists_toDigits_eq_cons {m : Nat} (hm : 0 < m) :
    ∃ c cs, Nat.toDigits 10 m = c :: cs ∧ c ≠ '0' := by
  induction m using Nat.strong_induction_on with
  | _ m ih =>
      by_cases hlt : m < 10
      · refine ⟨m.digitChar, [], Nat.toDigits_of_lt_base hlt, ?_⟩
        intro hzero
        -- The code of the only digit is 48 and its value, and `m` is not zero.
        have hcode := Nat.toNat_digitChar_of_lt_ten hlt
        rw [hzero] at hcode
        have hcode : 48 = 48 + m := hcode
        omega
      · obtain ⟨c, cs, hdigits, hc⟩ := ih (m / 10) (by omega) (by omega)
        refine ⟨c, cs ++ [(m % 10).digitChar], ?_, hc⟩
        rw [Nat.toDigits_of_base_le (by decide) (by omega), hdigits, List.cons_append]

/-- Decimal digits are spelled as a numeral: a zero alone, or no zero in
front. -/
theorem whole_toDigits (m : Nat) : Grammar.Whole (Nat.toDigits 10 m) := by
  have hdigits : Grammar.Digits (Nat.toDigits 10 m) := by
    intro c hc
    exact Nat.isDigit_of_mem_toDigits (by decide) (by decide) hc
  cases Nat.eq_zero_or_pos m with
  | inl hzero =>
      subst hzero
      exact .zero
  | inr hpos =>
      obtain ⟨c, cs, hcons, hc⟩ := exists_toDigits_eq_cons hpos
      rw [hcons] at hdigits ⊢
      obtain ⟨hfirst, hothers⟩ := List.forall_mem_cons.mp hdigits
      exact .digits hfirst hc hothers

/-- The digits of a number have it as their value. -/
theorem digitsValue_toDigits (m : Nat) : digitsValue (Nat.toDigits 10 m) = m :=
  Nat.ofDigitChars_toDigits (by decide) (by decide)

/-- A whole number is written as a sign, if it is negative, and digits. -/
theorem toList_signedText (negative : Bool) (m : Nat) :
    (signedText negative m).toList
      = (if negative then ['-'] else []) ++ Nat.toDigits 10 m := by
  rw [signedText, String.toList_append, Nat.toString_eq_repr, Nat.toList_repr]
  cases negative <;> rfl

namespace Number

/-! ### Exact values -/

/-- The value of a number from the parts that it is held in: an integer
is itself, and a double is a significand of at most 53 bits times a power
of two. -/
def exactValue : Number → ℚ
  | .integer i => i.val
  | .double x =>
    (if x.negative then -1 else 1) * (x.significand * 2 ^ ((x.scale : ℤ) - 1074))

/-- The value of a number does not depend on how it is computed. -/
theorem exactValue_eq_value (n : Number) : n.exactValue = n.value := by
  cases n with
  | integer i => rfl
  | double x =>
      have habs : (x.significand : ℚ) * 2 ^ ((x.scale : ℤ) - 1074) = x.value := by
        rw [Binary64.value, Binary64.units, Nat.shiftLeft_eq, Binary64.unitsPerOne_eq,
          Nat.cast_mul, Nat.cast_pow, Nat.cast_pow, Nat.cast_ofNat, zpow_sub₀ two_ne_zero,
          zpow_natCast, zpow_ofNat, mul_div_assoc]
      rw [exactValue, habs, value]
      split
      · rw [neg_one_mul]
      · rw [one_mul]

/-- Zero with a minus sign is one of the doubles. No integer is, and a
double with nothing in its significand has no power of two either. -/
theorem eq_negativeZero {n : Number} (hvalue : n.value = 0) (hsign : n.negative = true) :
    n = .double (.zero true) := by
  cases n with
  | integer i =>
      have hi : (i.val : ℚ) = 0 := hvalue
      -- The integer zero has no minus sign.
      rw [negative, Int.cast_eq_zero.mp hi] at hsign
      cases hsign
  | double x =>
      have habs : x.value = 0 := by rw [← abs_value_double, hvalue, abs_zero]
      have hsignificand := Binary64.value_eq_zero_iff.mp habs
      obtain ⟨negative, significand, scale, hlt, hscale, hnormal⟩ := x
      obtain rfl : significand = 0 := hsignificand
      obtain rfl : negative = true := hsign
      obtain rfl : scale = 0 := hnormal.resolve_right (by decide)
      rfl

/-- Only negative zero is bound as such. -/
theorem text_eq_negativeZero_iff {n : Number} {text : String} (h : n.integerText? = some text) :
    text = "-0" ↔ n = .double (.zero true) := by
  obtain ⟨m, hm, -, rfl⟩ := integerText?_eq_some_iff.mp h
  have hzero : "-0" = signedText true 0 := rfl
  rw [hzero, signedText_inj]
  constructor
  · rintro ⟨hsign, rfl⟩
    exact eq_negativeZero (abs_eq_zero.mp (by simpa using hm)) hsign
  · rintro rfl
    rw [abs_value_double, Binary64.value_eq_zero_iff.mpr rfl] at hm
    exact ⟨rfl, by exact_mod_cast hm.symm⟩

/-- The text of a number is exact. There is one exactly if the value is
whole and the number is held as an integer or is not above `2 ^ 53`. It
is a minus sign or nothing, then decimal digits without a needless zero
in front, and what they say is the value. Only for negative zero it is a
zero with a sign. -/
theorem integer_text_is_exact (n : Number) :
    (n.integerText?.isSome = true ↔
      (∃ i : ℤ, n.exactValue = i) ∧ ((∃ i, n = .integer i) ∨ |n.exactValue| ≤ 2 ^ 53)) ∧
    ∀ text, n.integerText? = some text →
      (∃ (negative : Bool) (digits : List Char),
        text.toList = (if negative then ['-'] else []) ++ digits ∧ Grammar.Whole digits ∧
        n.exactValue = if negative then -(digitsValue digits : ℚ) else digitsValue digits) ∧
      (text = "-0" ↔ n = .double (.zero true)) := by
  rw [exactValue_eq_value]
  constructor
  · rw [isSome_integerText?_iff]
    constructor
    · rintro ⟨i, hi, hsize⟩
      refine ⟨⟨i, hi⟩, hsize.imp_right fun hle => ?_⟩
      rw [hi]
      exact_mod_cast hle
    · rintro ⟨⟨i, hi⟩, hsize⟩
      refine ⟨i, hi, hsize.imp_right fun hle => ?_⟩
      rw [hi] at hle
      exact_mod_cast hle
  · intro text htext
    refine ⟨?_, text_eq_negativeZero_iff htext⟩
    obtain ⟨m, hm, -, rfl⟩ := integerText?_eq_some_iff.mp htext
    refine ⟨n.negative, Nat.toDigits 10 m, toList_signedText n.negative m, whole_toDigits m, ?_⟩
    rw [digitsValue_toDigits, ← hm]
    exact n.value_eq_signed

/-- The double that follows the largest one with a text. -/
def firstWithoutText : Binary64 :=
  { Literal.largestWhole with
    significand := 4503599627370497
    significand_lt := by decide
    normal := .inr (by decide) }

/-- The last double with a text has all of its digits in it, and the next
one has no text for being too large. Zero keeps its sign. -/
theorem integer_text_is_exact_at_bounds :
    (integerText? (.double Literal.largestWhole) = some "9007199254740992" ∧
      ∃ (negative : Bool) (digits : List Char),
        "9007199254740992".toList = (if negative then ['-'] else []) ++ digits ∧
        Grammar.Whole digits ∧
        exactValue (.double Literal.largestWhole) =
          if negative then -(digitsValue digits : ℚ) else digitsValue digits) ∧
    ¬ ((∃ i : ℤ, exactValue (.double firstWithoutText) = i) ∧
      ((∃ i, Number.double firstWithoutText = .integer i) ∨
        |exactValue (.double firstWithoutText)| ≤ 2 ^ 53)) ∧
    (integerText? (.double (.zero true)) = some "-0" ∧
      integerText? (.integer 0) = some "0" ∧ "0" ≠ "-0") := by
  refine ⟨⟨rfl, ((integer_text_is_exact _).2 _ rfl).1⟩, ?_, rfl, rfl, ?_⟩
  · intro hfits
    have hsome := (integer_text_is_exact (.double firstWithoutText)).1.mpr hfits
    have hnone : integerText? (.double firstWithoutText) = none := rfl
    rw [hnone] at hsome
    cases hsome
  · intro htext
    have hzero := ((integer_text_is_exact (.integer 0)).2 "0" rfl).2.mp htext
    cases hzero

end Number

end FilterSql.Json
