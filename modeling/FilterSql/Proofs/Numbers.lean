import FilterSql.Proofs.LiteralPlaces
import Mathlib

/-!
# `FilterSql.Proofs.Numbers`: numbers from the text to the parameters

A number is written as a numeral, read as an integer or a double, and
bound as text. On this way it should stay what it is, or be refused.

* `Numeral.boundAs_of_integerText?`: one numeral and what is bound for
  it.
* `Compiler.numerals_bound`: the same for all numerals of a filter text.
* `Compiler.half_bound_as_whole`: a numeral with too many digits may be
  bound as another number. The double that is read for it is whole, and
  nothing tells it from the double of a whole number any more.

What is bound is compared with `String.toInt?`. The library's facts on it
(`Int.toInt?_repr`, `String.toInt?_minus_append`) come with the import of
Mathlib as a whole, and with none of its modules alone.
-/

set_option autoImplicit false

namespace FilterSql

namespace Json.Numeral

open Binary64

variable {n : Numeral}

/-! ### Integers -/

/-- Without point and exponent the digits are the value. -/
theorem magnitude_of_plain (hfraction : n.fraction = []) (hexponent : n.exponent = none) :
    n.magnitude = digitsValue n.whole := by
  simp [magnitude, mantissa, power, hfraction, hexponent, digitsValue]

/-- The magnitude is the value without its sign. -/
theorem abs_value (n : Numeral) : |n.value| = n.magnitude := by
  unfold value
  split
  · rw [abs_neg, abs_of_nonneg n.magnitude_nonneg]
  · exact abs_of_nonneg n.magnitude_nonneg

/-- What is read as an integer is the integer that is written. -/
theorem value_of_integer? {i : Integer} (h : n.integer? = some i) :
    (i.val : ℚ) = n.value ∧ n.exponent = none := by
  simp only [integer?] at h
  split at h
  · next hplain =>
      rw [Bool.and_eq_true, List.isEmpty_iff, Option.isNone_iff_eq_none] at hplain
      rw [value, magnitude_of_plain hplain.1 hplain.2]
      refine ⟨?_, hplain.2⟩
      split at h
      · next hnegative =>
          split at h
          · cases h
            rw [if_pos hnegative]
            push_cast
            rfl
          · cases h
      · next hnegative =>
          split at h
          · cases h
            rw [if_neg hnegative]
            push_cast
            rfl
          · cases h
  · cases h

/-- What is written as an integer and not read as one is zero with a
sign, or it does not fit. -/
theorem digits_of_not_integer? (h : n.integer? = none) (hfraction : n.fraction = [])
    (hexponent : n.exponent = none) : n.digits = 0 ∨ 2 ^ 63 < n.digits := by
  rw [digits, hfraction, List.append_nil]
  simp only [integer?, hfraction, hexponent, List.isEmpty_nil, Option.isNone_none, Bool.and_self,
    if_true, Nat.one_shiftLeft] at h
  split at h
  · split at h
    · cases h
    · omega
  · split at h
    · cases h
    · omega

/-! ### Doubles -/

/-- Two whole numbers that are close are the same, if they are not too
large. -/
theorem eq_of_close {m j : Nat} (hsize : (j : ℚ) < 2 ^ 51)
    (h : |(m : ℚ) - j| ≤ j / 2 ^ 51 ∨ m = 0 ∧ (j : ℚ) < 1 / 10 ^ 322) : m = j := by
  rcases h with hclose | ⟨rfl, hsmall⟩
  · have hlt : |(m : ℚ) - j| < 1 := by linarith
    have hltZ : |(m : ℤ) - j| < 1 := by exact_mod_cast hlt
    have hzero := Int.abs_lt_one_iff.mp hltZ
    omega
  · have hone : (1 : ℚ) / 10 ^ 322 ≤ 1 :=
      div_le_one_of_le₀ (one_le_pow₀ (by norm_num)) (pow_nonneg (by norm_num) 322)
    have hlt : j < 1 := by exact_mod_cast hsmall.trans_le hone
    omega

/-- A numeral that is carried over, by way of a double. -/
theorem magnitude_of_carried (hn : n.IsDecimal) (hinteger : n.integer? = none) (hcarried : n.Carried)
    {x : Binary64} (hx : n.double? = some x) {m : Nat} (hm : x.value = m) (hle : m ≤ 2 ^ 53) :
    (m : ℚ) = n.magnitude := by
  cases hcarried with
  | plain hfraction hexponent =>
      -- An integer that is held as a double is zero with a sign, or too large to be bound.
      rcases digits_of_not_integer? hinteger hfraction hexponent with hzero | hlarge
      · rcases exact_of_double? (by omega) hx hm hle with hexact | ⟨rfl, -⟩
        · exact hexact
        · rw [magnitude_of_digits hzero, Nat.cast_zero]
      · exact absurd hle (not_le_of_plain hn hfraction hexponent hlarge hx hm)
  | short hlt hsize =>
      rcases exact_of_double? hlt hx hm hle with hexact | ⟨rfl, hsmall⟩
      · exact hexact
      · rw [abs_value] at hsize
        rcases hsize with hzero | hlarge
        · rw [← abs_value, hzero, abs_zero, Nat.cast_zero]
        · exact absurd hsmall (not_lt.mpr hlarge)
  | whole hrange hwhole hsize =>
      obtain ⟨i, hi⟩ := hwhole
      have hmagnitude : n.magnitude = i.natAbs := by rw [← abs_value, hi, Nat.cast_natAbs, Int.cast_abs]
      -- Both are whole and less than one apart.
      have hclose := close_of_double? hn hrange hx hm hle
      rw [abs_value] at hsize
      rw [hmagnitude] at hsize hclose ⊢
      exact_mod_cast eq_of_close hsize hclose

/-- The text of a whole number with its sign. -/
theorem toInt?_signed (negative : Bool) (m : Nat) :
    ((if negative then "-" else "") ++ toString m).toInt? =
      some (if negative then -(m : Int) else m) := by
  cases negative with
  | false => exact Int.toInt?_repr m
  | true =>
      have hdigits : (toString m).toNat? = some m := Nat.toNat?_repr m
      rw [if_pos rfl, if_pos rfl, String.toInt?_minus_append, hdigits, Option.map_some]

/-- The distance from a numeral is that of the absolute values. -/
theorem abs_signed_sub_value (n : Numeral) (m : Nat) :
    |((if n.negative then -(m : Int) else m : Int) : ℚ) - n.value| = |(m : ℚ) - n.magnitude| := by
  unfold value
  split
  · rw [Int.cast_neg, Int.cast_natCast, neg_sub_neg, abs_sub_comm]
  · rw [Int.cast_natCast]

/-- An integer is bound as it is. -/
theorem boundAs_of_integer? {i : Integer} (h : n.integer? = some i) :
    n.BoundAs (toString i.val) := by
  obtain ⟨hvalue, hexponent⟩ := value_of_integer? h
  refine ⟨i.val, Int.toInt?_repr i.val, fun _ => hvalue, fun _ => .inl ?_, ?_⟩
  · rw [hvalue, sub_self, abs_zero]
    exact div_nonneg (abs_nonneg _) (by norm_num)
  · exact fun hrange => absurd (inRange_of_exponent hexponent) hrange

/-- A double that is whole is bound as the whole number that the numeral
rounds to. -/
theorem boundAs_of_double? (hn : n.IsDecimal) (hinteger : n.integer? = none) {x : Binary64}
    (hx : n.double? = some x) {m : Nat} (hm : x.value = m) (hle : m ≤ 2 ^ 53) :
    n.BoundAs ((if n.negative then "-" else "") ++ toString m) := by
  refine ⟨_, toInt?_signed n.negative m, ?_, ?_, ?_⟩
  · intro hcarried
    have hexact := magnitude_of_carried hn hinteger hcarried hx hm hle
    rw [← sub_eq_zero, ← abs_eq_zero, abs_signed_sub_value, hexact, sub_self, abs_zero]
  · intro hrange
    rw [abs_signed_sub_value, abs_value]
    refine (close_of_double? hn hrange hx hm hle).imp_right ?_
    rintro ⟨rfl, hsmall⟩
    exact ⟨by simp, hsmall⟩
  · intro hrange
    -- Beyond the bound of exponents only zero has a double.
    obtain ⟨rfl, -⟩ := double?_of_not_inRange hrange hx
    rw [value_eq_zero_iff.mpr rfl] at hm
    obtain rfl : 0 = m := by exact_mod_cast hm
    simp

/-- What is bound for a number goes with the numeral that was read. -/
theorem boundAs_of_integerText? (hn : n.IsDecimal) {x : Number} (hx : n.number? = some x)
    {text : String} (htext : x.integerText? = some text) : n.BoundAs text := by
  unfold number? at hx
  cases hinteger : n.integer? with
  | some i =>
      rw [hinteger] at hx
      cases hx
      rw [Number.integerText?_integer] at htext
      cases htext
      exact boundAs_of_integer? hinteger
  | none =>
      rw [hinteger] at hx
      obtain ⟨y, hy, rfl⟩ := Option.map_eq_some_iff.mp hx
      simp only [Number.integerText?_double, doubleText?] at htext
      split at htext
      · cases htext
      · next m hwhole =>
          split at htext
          · next hle =>
              rw [maxExactInteger, Nat.one_shiftLeft] at hle
              cases htext
              exact boundAs_of_double? hn hinteger hy (value_of_whole? hwhole) hle
          · cases htext

end Json.Numeral

/-! ### Filter texts -/

/-- A numeral is bound as the value that is read for it. -/
theorem Json.Draft.boundAs_of_reads {d : Json.Draft} {v : Json} (h : d.Reads v)
    (hv : Literal.defects v = []) (n : Json.Numeral) (hd : d = .numeral n) :
    n.BoundAs (Literal.text v) := by
  subst hd
  cases h with
  | @numeral _ x hn hx =>
      cases htext : x.integerText? with
      | none => simp [Literal.defects, htext] at hv
      | some text =>
          rw [Literal.text, htext]
          exact Json.Numeral.boundAs_of_integerText? hn hx htext

namespace Compiler

variable (compiler : Compiler)

/-- Numerals are bound as they are written, or close to it. The literals
in the text and the parameters go together one for one. The parameter
for a numeral is a decimal integer. It is the value of the numeral as it
is written, point and exponent included, if that has neither, if its
digits make a number below `2 ^ 53` and it is not so small that it
vanishes, or if it is a whole number below `2 ^ 51`. What does not
vanish is bound with an error of at most one part in `2 ^ 51`, unless
the exponent is beyond all bounds; then zero is bound. Blank text has no
literals. -/
theorem numerals_bound (text : String) (clause : WhereClause)
    (h : (compiler.buildText text).outcome = .ok clause) :
    (Text.allBlank text = true ∧ clause.params = []) ∨
      ∃ d, Json.Draft.read text = .ok d ∧
        List.Forall₂ (fun literal param => ∀ n, literal = .numeral n → n.BoundAs param)
          d.literals clause.params := by
  rcases compiler.cases_of_buildText h with ⟨hblank, rfl⟩ | ⟨v, hread, hv⟩
  · exact .inl ⟨hblank, rfl⟩
  · obtain ⟨d, hdraft, hd⟩ := Json.Draft.reads_of_read hread
    refine .inr ⟨d, hdraft, ?_⟩
    rcases hv with ⟨rfl, rfl⟩ | ⟨t, hfilter, hbuild⟩
    · cases hd
      exact .nil
    · rw [Filter.ofJson_eq_ofJsonAt, Filter.ofJsonAt_eq_ok_iff] at hfilter
      obtain ⟨rfl, haccepted⟩ := hfilter
      obtain ⟨hdefects, hparams⟩ := compiler.params_of_build hbuild
      have hliterals := Json.Draft.forall₂_literals t d 0 haccepted hd
      have hboth := ((List.forall₂_and_left _ _).mpr ⟨hdefects, hliterals.flip⟩).flip
      rw [hparams, List.forall₂_map_right_iff]
      exact hboth.imp fun literal v hv => Json.Draft.boundAs_of_reads hv.2 hv.1

/-- The compiler for the usual layout. -/
def usual : Compiler where
  layout := {}
  checked := rfl

/-- Numerals of different forms at different places. -/
def mixedText : String :=
  "\x7b\"$or\":[\x7b\"n\":\x7b\"$in\":[30e-1,-0,9007199254740993]\x7d\x7d,\x7b\"n\":-2.50e1\x7d]\x7d"

/-- Every numeral here is bound as it is written. -/
theorem numerals_bound_mixed :
    ∃ clause d, (usual.buildText mixedText).outcome = .ok clause ∧
      clause.params = ["3", "-0", "9007199254740993", "-25"] ∧ Json.Draft.read mixedText = .ok d ∧
      List.Forall₂ (fun literal param => ∀ n, literal = .numeral n → n.BoundAs param)
        d.literals clause.params := by
  obtain ⟨clause, hbuild, hparams⟩ : ∃ clause, (usual.buildText mixedText).outcome = .ok clause ∧
      clause.params = ["3", "-0", "9007199254740993", "-25"] :=
    exists_of_toOption_map (by decide +kernel)
  rcases usual.numerals_bound mixedText clause hbuild with ⟨hblank, -⟩ | ⟨d, hdraft, hbound⟩
  · exact absurd hblank (by decide)
  · exact ⟨clause, d, hbuild, hparams, hdraft, hbound⟩

/-- A numeral with more digits than a double holds. -/
def halfText : String := "\x7b\"n\":\x7b\"$gt\":4503599627370495.5\x7d\x7d"

/-- Half a unit is lost: the literal is not whole, but what is bound for
it is. -/
theorem half_bound_as_whole :
    ∃ clause d n, (usual.buildText halfText).outcome = .ok clause ∧
      clause.params = ["4503599627370495"] ∧ Json.Draft.read halfText = .ok d ∧
      d.literals = [.numeral n] ∧ n.value = 9007199254740991 / 2 := by
  let n : Json.Numeral :=
    { negative := false
      whole := ['4', '5', '0', '3', '5', '9', '9', '6', '2', '7', '3', '7', '0', '4', '9', '5']
      fraction := ['5']
      exponent := none }
  have hdraft : Json.Draft.read halfText
      = .ok (.object [("n", .object [("$gt", .numeral n)])]) := by cbv
  have hvalue : n.value = 9007199254740991 / 2 := by
    have hwhole : Json.digitsValue n.whole = 4503599627370495 := by decide
    have hfraction : Json.digitsValue n.fraction = 5 := by decide
    rw [Json.Numeral.value, if_neg Bool.false_ne_true, Json.Numeral.magnitude,
      Json.Numeral.mantissa, hwhole, hfraction]
    norm_num [n, Json.Numeral.power]
  obtain ⟨clause, hbuild, hparams⟩ : ∃ clause, (usual.buildText halfText).outcome = .ok clause ∧
      clause.params = ["4503599627370495"] :=
    exists_of_toOption_map (by decide +kernel)
  exact ⟨clause, _, n, hbuild, hparams, hdraft, rfl, hvalue⟩

end Compiler

end FilterSql
