import FilterSql.Binary64.Basic

/-!
# `FilterSql.Binary64.Shortest`: the fewest decimal digits of a double

A double is the nearest one to a whole interval of numbers, so many
decimals read back as it. `Binary64.shortest` picks one with the
fewest digits, and of those the nearest to the double itself.

For a given number of digits only two decimals can be candidates, the
double's neighbours from below and above on that decimal grid: if any
point of the grid lies in the interval, so does one of these two.
Seventeen digits always suffice, so the search is a bounded one.
-/

set_option autoImplicit false

namespace FilterSql.Binary64

/-- A positive decimal number `digits · 10 ^ exponent`. -/
structure Decimal where
  digits : Nat
  exponent : Int
deriving DecidableEq

namespace Decimal

/-- The number of digits of `n`; zero has one. -/
def width (n : Nat) : Nat :=
  (Nat.toDigits 10 n).length

/-- Drops zeros at the end of `digits`, at most `count` of them. -/
def stripped : Nat → Decimal → Decimal
  | 0, d => d
  | count + 1, d =>
    if d.digits % 10 = 0 then stripped count ⟨d.digits / 10, d.exponent + 1⟩
    else d

/-- The exponent of the leading digit. -/
def leading (d : Decimal) : Int :=
  d.exponent + width d.digits - 1

end Decimal

/-- The exponent of the leading decimal digit of `num / den`, that is
the floor of its decimal logarithm. Both numbers are positive. -/
def leadingExponent (num den : Nat) : Int :=
  if den ≤ num then (Decimal.width (num / den) : Int) - 1
  else -(Decimal.width ((den - 1) / num) : Int)

/-- A positive double with the interval of numbers that round to it,
all four as multiples of a quarter of the double's own unit. -/
structure Span where
  low : Nat
  value : Nat
  high : Nat
  /-- Whether the two ends round to the double as well. -/
  closed : Bool

/-- The interval around `x`. The gap below a power of two is half the
gap above it. The ends are half way to a neighbour, and a half goes
to the even significand. -/
def span (x : Binary64) : Span where
  low :=
    if x.significand = 1 <<< 52 ∧ x.scale ≠ 0 then
      4 * x.units - 1 <<< x.scale
    else 4 * x.units - 2 <<< x.scale
  value := 4 * x.units
  high := 4 * x.units + 2 <<< x.scale
  closed := x.significand % 2 = 0

/-- Whether `num / den` quarter units lie in the interval. -/
def Span.contains (s : Span) (num den : Nat) : Bool :=
  if s.closed then s.low * den ≤ num && num ≤ s.high * den
  else s.low * den < num && num < s.high * den

/-- The candidate on the grid of multiples of `10 ^ grid`: the nearer
of those neighbours of the double that lie in the interval. Of
two equally near ones the even one is taken. -/
def Span.candidate? (s : Span) (grid : Int) : Option Decimal :=
  -- One grid step is `step / parts` quarter units.
  let step := 4 * unitsPerOne * Nat.pow 10 grid.toNat
  let parts := Nat.pow 10 (-grid).toNat
  let below := s.value * parts / step
  let above := below + 1
  let downward := s.value * parts - below * step
  let upward := above * step - s.value * parts
  let belowFits := below ≠ 0 ∧ s.contains (below * step) parts
  let aboveFits := s.contains (above * step) parts
  if belowFits ∧ aboveFits then
    if downward < upward ∨ (downward = upward ∧ below % 2 = 0) then
      some ⟨below, grid⟩
    else some ⟨above, grid⟩
  else if belowFits then some ⟨below, grid⟩
  else if aboveFits then some ⟨above, grid⟩
  else none

/-- The first candidate with `count` digits or more, trying `tries`
digit counts. -/
def Span.search (s : Span) (leading : Int) : Nat → Nat → Option Decimal
  | 0, _ => none
  | tries + 1, count =>
    match s.candidate? (leading + 1 - count) with
    | some d => some d
    | none => s.search leading tries (count + 1)

/-- The decimal with the fewest digits that reads back as `x` without
its sign. Zero is `0 · 10 ^ 0`. -/
def shortest (x : Binary64) : Decimal :=
  if x.significand = 0 then ⟨0, 0⟩
  else
    let leading := leadingExponent x.units unitsPerOne
    match x.span.search leading 17 1 with
    | some d => d.stripped 20
    | none => ⟨x.units / unitsPerOne, 0⟩

end FilterSql.Binary64
