import FilterSql.Error
import FilterSql.Sql.Backend
import FilterSql.Traced

/-!
# `FilterSql.Literal`: one value of a filter as a parameter

Parameters are bound as text. A literal is the text, the placeholder
that stands for it in SQL, and the type that the placeholder gives
it, which follows from the kind of the JSON value alone.

* `Json.Number.integerText?`: numbers are accepted if they are whole. A
  number is asked for a signed word first, then for an unsigned one, and
  only then for a double.
* `Json.isTaggedDate`: the one form of object that is a literal.
* `Literal.encode`: the literal for a value.
-/

set_option autoImplicit false

namespace FilterSql

open Sql (Cast Backend)

namespace Json

/-- The largest double up to which every whole number is one. -/
def maxExactInteger : Nat := 1 <<< 53

/-- A whole double in decimal; `none` if it has a fractional part, and
beyond `maxExactInteger`, where it may not be what was written. Negative
zero keeps its sign. -/
def doubleText? (x : Binary64) : Option String :=
  match x.whole? with
  | none => none
  | some n =>
    if n ≤ maxExactInteger then
      some ((if x.negative then "-" else "") ++ toString n)
    else none

namespace Number

/-- The number as a signed word; `none` for doubles and for integers
that are too large. -/
def int64? : Number → Option Int64
  | .integer i => if i.val < (1 <<< 63 : Nat) then some (.ofInt i.val) else none
  | .double _ => none

/-- The number as an unsigned word; `none` for doubles and for negative
integers. -/
def uint64? : Number → Option UInt64
  | .integer i => if 0 ≤ i.val then some (.ofNat i.toNat) else none
  | .double _ => none

/-- The double nearest to the number. -/
def nearest? : Number → Option Binary64
  | .integer i =>
    (Binary64.ofNat? i.val.natAbs).map (Binary64.withSign (decide (i.val < 0)))
  | .double x => some x

/-- A whole number in decimal; `none` for doubles that are not whole or
too large. -/
def integerText? (n : Number) : Option String :=
  n.int64?.map toString <|> n.uint64?.map toString <|>
    n.nearest?.bind doubleText?

/-- An integer is a word of one kind or the other, and the word has its
digits. -/
theorem integerText?_integer (i : Integer) :
    integerText? (.integer i) = some (toString i.val) := by
  by_cases hsigned : i.val < (1 <<< 63 : Nat)
  · have hword : toString (Int64.ofInt i.val) = toString i.val := by
      show toString (Int64.ofInt i.val).toInt = _
      rw [Int64.toInt_ofInt_of_le i.lower hsigned]
    rw [integerText?, int64?, if_pos hsigned, Option.map_some, hword]
    rfl
  · have hnonneg : 0 ≤ i.val := by omega
    have hfits : i.toNat < 2 ^ 64 := by
      have hupper := i.upper
      unfold Integer.toNat
      omega
    have hword : toString (UInt64.ofNat i.toNat) = toString i.val := by
      show toString (UInt64.ofNat i.toNat).toNat = _
      rw [UInt64.toNat_ofNat', Nat.mod_eq_of_lt hfits]
      obtain ⟨n, hn⟩ := Int.eq_ofNat_of_zero_le hnonneg
      rw [Integer.toNat, hn]
      rfl
    rw [integerText?, int64?, if_neg hsigned, uint64?, if_pos hnonneg, Option.map_some, hword]
    rfl

/-- A double is no word of either kind. -/
theorem integerText?_double (x : Binary64) : integerText? (.double x) = doubleText? x :=
  rfl

end Number

/-- A date is an object that says so: its `type` is `date`. -/
def Fields.isTaggedDate (fields : Fields) : Bool :=
  match fields.get? "type" with
  | some (.string tag) => tag = "date"
  | _ => false

/-- Whether a value is a tagged date. -/
def isTaggedDate : Json → Bool
  | .object fields => Fields.isTaggedDate fields
  | _ => false

end Json

/-- A value to be bound: what stands for it in SQL, its text, and the
type that the placeholder gives it. -/
structure Literal where
  placeholder : String
  param : String
  cast : Option Cast
deriving DecidableEq

namespace Literal

/-- A literal that is compared as `cast`. -/
def typed (backend : Backend) (cast : Cast) (param : String) : Literal where
  placeholder := backend.typedPlaceholder cast
  param
  cast := some cast

/-- A text, compared as whatever type the column has. -/
def untyped (param : String) : Literal where
  placeholder := "?"
  param
  cast := none

/-- The text of a tagged date. Anything but a string is bound as its
JSON text. -/
def dateParam (fields : Json.Fields) : Except Error String :=
  match fields.get? "date" with
  | none | some .null => .error (.unsupportedValue (.object fields))
  | some (.string s) => if s = "" then .error .missingOperand else .ok s
  | some v => .ok v.compact

/-- The literal for a value. Only a text is announced, since only
there the outcome of a comparison hangs on the column. -/
def encode (backend : Backend) : Json → Traced Error Literal
  | .null => .fail .missingOperand
  | .bool b =>
    pure (typed backend .boolean (if b then "true" else "false"))
  | .number n =>
    match n.integerText? with
    | some text => pure (typed backend .double text)
    | none => .fail (.nonIntegerNumber n)
  | .string s =>
    if s = "" then .fail .missingOperand
    else do
      .emit (.untypedText s)
      pure (untyped s)
  | .array items => .fail (.unsupportedValue (.array items))
  | .object fields =>
    if Json.Fields.isTaggedDate fields then do
      let text ← .ofExcept (dateParam fields)
      pure (typed backend .date text)
    else .fail (.unsupportedValue (.object fields))

/-- The literals for a list of values in order. -/
def encodeAll (backend : Backend) : List Json → Traced Error (List Literal)
  | [] => pure []
  | v :: values => do
    let literal ← encode backend v
    let literals ← encodeAll backend values
    pure (literal :: literals)

/-- The type that all literals have; `none` if there are different
ones or a text among them. -/
def sharedCast : List Literal → Option Cast
  | [] => none
  | literal :: literals =>
    match literal.cast with
    | none => none
    | some cast =>
      if literals.all fun other => other.cast = some cast then some cast
      else none

end Literal

end FilterSql
