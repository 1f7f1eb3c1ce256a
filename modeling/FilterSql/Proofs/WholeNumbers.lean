import FilterSql.Proofs.Numbers

/-!
# `FilterSql.Proofs.WholeNumbers`: the decimal text of a number

A number is bound as text if it is whole. The text is made from the form
in which the number is held, an integer or a double; here it is told from
the value alone. `Number.value` is the exact value as a rational number
and `Number.negative` the sign, which zero has as well.

* `Number.integerText?_eq_some_iff`: the text is the sign and the digits
  of the absolute value.
* `Number.isSome_integerText?_iff`: which numbers have a text.
* `Number.text_eq_iff`: when two numbers share one. In whichever form
  they are held, it is when their values agree and, at zero, their signs.
-/

set_option autoImplicit false

namespace FilterSql

/-- A double is whole if its value is. -/
theorem Binary64.whole?_eq_some_iff {x : Binary64} {m : Nat} :
    x.whole? = some m ↔ x.value = m := by
  constructor
  · exact value_of_whole?
  · intro h
    rw [value, div_eq_iff unitsPerOne_pos.ne'] at h
    have hunits : x.units = m * unitsPerOne := by exact_mod_cast h
    have hpos : 0 < unitsPerOne := by exact_mod_cast unitsPerOne_pos
    rw [whole?, hunits, if_pos (Nat.mul_mod_left ..), Nat.mul_div_cancel m hpos]

namespace Json

/-! ### Decimal texts -/

/-- A whole number in decimal, with its sign. -/
def signedText (negative : Bool) (m : Nat) : String :=
  (if negative then "-" else "") ++ toString m

/-- An integer is written as a sign, if it is negative, and digits. -/
theorem toString_int (i : Int) : toString i = signedText (i < 0) i.natAbs := by
  cases i with
  | ofNat m =>
      rw [signedText, if_neg (by simp), String.empty_append]
      rfl
  | negSucc m =>
      rw [signedText, if_pos (by simp)]
      rfl

/-- There is a digit at least. -/
theorem signedText_ne_empty (negative : Bool) (m : Nat) : signedText negative m ≠ "" := by
  intro h
  exact Nat.repr_ne_empty (String.append_eq_empty_iff.mp h).2

/-- The sign shows. Reading the texts back gives the numbers, so all
that is left to tell apart are the two zeros. -/
theorem signedText_true_ne_false (m k : Nat) : signedText true m ≠ signedText false k := by
  intro h
  have hread : -(m : Int) = k := by
    apply Option.some.inj
    calc some (-(m : Int)) = (signedText true m).toInt? := (Numeral.toInt?_signed true m).symm
      _ = (signedText false k).toInt? := by rw [h]
      _ = some (k : Int) := Numeral.toInt?_signed false k
  obtain rfl : m = 0 := by omega
  obtain rfl : k = 0 := by omega
  exact absurd h (by decide)

/-- Two texts agree only if signs and digits do. -/
theorem signedText_inj {a b : Bool} {m k : Nat} :
    signedText a m = signedText b k ↔ a = b ∧ m = k := by
  constructor
  · intro h
    cases a with
    | false =>
        cases b with
        | false => exact ⟨rfl, Nat.repr_injective h⟩
        | true => exact absurd h.symm (signedText_true_ne_false k m)
    | true =>
        cases b with
        | false => exact absurd h (signedText_true_ne_false m k)
        | true => exact ⟨rfl, Nat.repr_injective ((String.append_right_inj "-").mp h)⟩
  · rintro ⟨rfl, rfl⟩
    rfl

namespace Number

/-! ### Values -/

/-- The exact value of a number. -/
def value : Number → ℚ
  | .integer i => i.val
  | .double x => if x.negative then -x.value else x.value

/-- Whether a number has a minus sign. Among the doubles there is a zero
that has one. -/
def negative : Number → Bool
  | .integer i => i.val < 0
  | .double x => x.negative

/-- A number that is whole. A double must not be so large that the
next whole number is not one. -/
def HasIntegerForm (n : Number) : Prop :=
  ∃ i : Int, n.value = i ∧ ((∃ j, n = .integer j) ∨ |i| ≤ 2 ^ 53)

/-- The size of an integer is its magnitude. -/
theorem abs_value_integer (i : Integer) : |value (.integer i)| = i.val.natAbs := by
  rw [value, Nat.cast_natAbs, Int.cast_abs]

/-- The size of a double is its value without the sign. -/
theorem abs_value_double (x : Binary64) : |value (.double x)| = x.value := by
  have habs := abs_of_nonneg x.value_nonneg
  by_cases hsign : x.negative = true
  · rw [value, if_pos hsign, abs_neg, habs]
  · rw [value, if_neg hsign, habs]

/-- Sign and absolute value make up a number. -/
theorem value_eq_signed (n : Number) :
    n.value = if n.negative then -|n.value| else |n.value| := by
  cases n with
  | integer i =>
      rw [value, negative]
      by_cases hi : i.val < 0
      · have hvalue : (i.val : ℚ) < 0 := by exact_mod_cast hi
        rw [if_pos (decide_eq_true hi), abs_of_neg hvalue, neg_neg]
      · have hvalue : (0 : ℚ) ≤ i.val := by exact_mod_cast not_lt.mp hi
        rw [if_neg (by simpa using hi), abs_of_nonneg hvalue]
  | double x =>
      -- a double is held as sign and absolute value
      rw [abs_value_double]
      rfl

/-- Away from zero the sign is that of the value. -/
theorem negative_iff {n : Number} (hzero : n.value ≠ 0) :
    n.negative = true ↔ n.value < 0 := by
  have hpos := abs_pos.mpr hzero
  have hsigned := n.value_eq_signed
  cases hsign : n.negative with
  | false =>
      rw [hsign, if_neg Bool.false_ne_true] at hsigned
      exact iff_of_false Bool.false_ne_true (by linarith)
  | true =>
      rw [hsign, if_pos rfl] at hsigned
      exact iff_of_true rfl (by linarith)

/-- Two numbers are the same if their signs and their absolute values
are. Only zero has a sign that does not follow from the value. -/
theorem negative_eq_and_abs_eq_iff {n k : Number} :
    n.negative = k.negative ∧ |n.value| = |k.value| ↔
      n.value = k.value ∧ (n.value = 0 → n.negative = k.negative) := by
  constructor
  · rintro ⟨hsign, habs⟩
    refine ⟨?_, fun _ => hsign⟩
    calc n.value = if n.negative then -|n.value| else |n.value| := n.value_eq_signed
      _ = if k.negative then -|k.value| else |k.value| := by rw [hsign, habs]
      _ = k.value := k.value_eq_signed.symm
  · rintro ⟨hvalue, hzero⟩
    refine ⟨?_, congrArg abs hvalue⟩
    -- at zero the value does not tell the sign
    by_cases hn : n.value = 0
    · exact hzero hn
    · rw [Bool.eq_iff_iff, negative_iff hn, hvalue, negative_iff (hvalue ▸ hn)]

/-! ### Texts -/

/-- The text of a double, if it has one. -/
theorem doubleText?_eq_some_iff {x : Binary64} {text : String} :
    doubleText? x = some text ↔
      ∃ m : Nat, x.value = m ∧ m ≤ 2 ^ 53 ∧ text = signedText x.negative m := by
  have hmax : maxExactInteger = 2 ^ 53 := Nat.one_shiftLeft 53
  simp only [← Binary64.whole?_eq_some_iff, doubleText?]
  cases x.whole? with
  | none => simp
  | some m =>
      show (if m ≤ maxExactInteger then some (signedText x.negative m) else none) = some text ↔ _
      simp [hmax, eq_comm]

/-- The text of a number holds its sign and its absolute value. -/
theorem integerText?_eq_some_iff {n : Number} {text : String} :
    n.integerText? = some text ↔
      ∃ m : Nat, |n.value| = m ∧ ((∃ j, n = .integer j) ∨ m ≤ 2 ^ 53) ∧
        text = signedText n.negative m := by
  cases n with
  | integer i =>
      rw [abs_value_integer, integerText?_integer]
      constructor
      · intro h
        cases h
        exact ⟨i.val.natAbs, rfl, .inl ⟨i, rfl⟩, toString_int i.val⟩
      · rintro ⟨m, hm, -, rfl⟩
        obtain rfl : i.val.natAbs = m := by exact_mod_cast hm
        exact congrArg some (toString_int i.val)
  | double x => simp [integerText?_double, doubleText?_eq_some_iff, abs_value_double, negative]

/-- There is a text for numbers with an integer form and for no others. -/
theorem isSome_integerText?_iff (n : Number) :
    n.integerText?.isSome = true ↔ n.HasIntegerForm := by
  rw [Option.isSome_iff_exists]
  constructor
  · rintro ⟨text, htext⟩
    obtain ⟨m, hm, hsize, -⟩ := integerText?_eq_some_iff.mp htext
    -- the text has the digits of `m`, and the integer gets its sign back
    have habs : |if n.negative then -(m : Int) else m| = m := by
      split
      · rw [abs_neg, Nat.abs_cast]
      · exact Nat.abs_cast m
    refine ⟨if n.negative then -(m : Int) else m, ?_, ?_⟩
    · rw [n.value_eq_signed, hm]
      push_cast
      rfl
    · rw [habs]
      exact_mod_cast hsize
  · rintro ⟨i, hi, hsize⟩
    refine ⟨_, integerText?_eq_some_iff.mpr ⟨i.natAbs, ?_, ?_, rfl⟩⟩
    · rw [hi, Nat.cast_natAbs, Int.cast_abs]
    · rw [Int.abs_eq_natAbs] at hsize
      exact_mod_cast hsize

/-- Two numbers have the same text if they have the same value, and the
same sign at zero. -/
theorem text_eq_iff {n k : Number} {s t : String} (hs : n.integerText? = some s)
    (ht : k.integerText? = some t) :
    s = t ↔ n.value = k.value ∧ (n.value = 0 → n.negative = k.negative) := by
  obtain ⟨m, hm, -, rfl⟩ := integerText?_eq_some_iff.mp hs
  obtain ⟨j, hj, -, rfl⟩ := integerText?_eq_some_iff.mp ht
  rw [signedText_inj, ← negative_eq_and_abs_eq_iff, hm, hj, Nat.cast_inj]

end Number

end Json

end FilterSql
