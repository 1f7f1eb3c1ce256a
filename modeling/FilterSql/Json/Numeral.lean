import FilterSql.Json.Basic

/-!
# `FilterSql.Json.Numeral`: numbers as they are written

A numeral is the written form of a number, cut into its parts. What
number it stands for follows a fixed and cheap rule: as many digits
as fit into 64 bits are kept, and one multiplication or division of
doubles brings the exponent in. So a double is close to what was
written, but not always the nearest one.

* `Numeral.number?`: the number that a numeral stands for; nothing if
  it is out of range.
-/

set_option autoImplicit false

namespace FilterSql.Json

/-- The value of a decimal digit. -/
def digitValue (c : Char) : Nat :=
  c.toNat - 48

/-- The value of a run of decimal digits. -/
def digitsValue (digits : List Char) : Nat :=
  digits.foldl (fun n c => 10 * n + digitValue c) 0

/-- The written exponent of a numeral. -/
structure Exponent where
  negative : Bool
  digits : List Char

/-- A numeral: sign, digits before the point, digits after it, and
the exponent if there is one. -/
structure Numeral where
  negative : Bool
  whole : List Char
  fraction : List Char
  exponent : Option Exponent

/-! ### The significand -/

/-- Appends digits to `s` for as long as the result is below
`2 ^ 64`; the digits from the first that does not fit are left. -/
def absorb (s : Nat) : List Char → Nat × List Char
  | [] => (s, [])
  | c :: digits =>
    if 10 * s + digitValue c < 1 <<< 64 then absorb (10 * s + digitValue c) digits
    else (s, c :: digits)

/-- The digits that were kept, and the power of ten that goes with
them. A digit lost before the point raises it, a digit kept after the
point lowers it, a digit lost after the point changes nothing. -/
def Numeral.significand (n : Numeral) : Nat × Int :=
  let (s, lost) := absorb 0 n.whole
  let (t, dropped) := absorb s n.fraction
  (t, (lost.length : Int) - ((n.fraction.length - dropped.length : Nat) : Int))

/-! ### The exponent -/

/-- The largest power of ten among the doubles. -/
def maxPower : Nat := 308

/-- The double nearest to a power of ten, up to `maxPower`. -/
def powerOfTen (k : Nat) : Binary64 :=
  (Binary64.ofNat? (Nat.pow 10 k)).getD (.zero false)

/-- Divides by the largest power of ten the given number of times. -/
def shrink (x : Binary64) : Nat → Binary64
  | 0 => x
  | times + 1 =>
    if x.significand = 0 then x
    else shrink ((x.div? (powerOfTen maxPower)).getD (.zero false)) times

/-- The double for `s · 10 ^ k`, by one multiplication or by as many
divisions as the exponent needs; `none` if it is too large. -/
def scaled? (s : Nat) (k : Int) : Option Binary64 :=
  let x := (Binary64.ofNat? s).getD (.zero false)
  if 0 ≤ k then
    if k ≤ maxPower then x.mul? (powerOfTen k.toNat)
    else if s = 0 then some (.zero false)
    else none
  else
    let times := (k.natAbs - 1) / maxPower
    (shrink x times).div? (powerOfTen (k.natAbs - maxPower * times))

/-- The largest exponent that is taken at its value. -/
def maxExponent : Nat := 2147483647

/-- The digits of an exponent after the one that takes its value
beyond `maxExponent`; `none` if there is no such digit. -/
def beyond? (value : Nat) : List Char → Option (List Char)
  | [] => none
  | c :: digits =>
    if maxExponent < 10 * value + digitValue c then some digits
    else beyond? (10 * value + digitValue c) digits

/-- The exponent's value with its sign. -/
def Exponent.value (e : Exponent) : Int :=
  if e.negative then -(digitsValue e.digits : Int) else digitsValue e.digits

/-- The digits that are still to come when it is known that the
number is out of range: an exponent beyond all bounds is noticed in
its middle, everything else at the end of the numeral. -/
def Numeral.unreadAtRange (n : Numeral) : List Char :=
  match n.exponent with
  | none => []
  | some e => (beyond? 0 e.digits).getD []

/-- The absolute value as a double. An exponent beyond all bounds
makes zero of everything when it is negative; a significand of zero
stays zero. -/
def Numeral.double? (n : Numeral) : Option Binary64 :=
  let (s, k) := n.significand
  match n.exponent with
  | none => scaled? s k
  | some e =>
    match beyond? 0 e.digits with
    | some _ => if s ≠ 0 && !e.negative then none else some (.zero false)
    | none => scaled? s (k + e.value)

/-- The integer that a numeral without point and exponent is, if it
fits into 64 bits. Zero with a sign is not an integer. -/
def Numeral.integer? (n : Numeral) : Option Integer :=
  if n.fraction.isEmpty && n.exponent.isNone then
    let value := digitsValue n.whole
    if n.negative then
      if h : 0 < value ∧ value ≤ 1 <<< 63 then
        some ⟨-(value : Int), by omega, by omega⟩
      else none
    else if h : value < 1 <<< 64 then some ⟨value, by omega, by omega⟩
    else none
  else none

/-- The number that a numeral stands for: an integer if it is written
as one and fits, else a double; `none` if it is out of range. -/
def Numeral.number? (n : Numeral) : Option Number :=
  match n.integer? with
  | some i => some (.integer i)
  | none => n.double?.map fun x => .double (x.withSign n.negative)

end FilterSql.Json
