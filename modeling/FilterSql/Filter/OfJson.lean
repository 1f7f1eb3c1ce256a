import FilterSql.Filter.Basic
import FilterSql.Literal

/-!
# `FilterSql.Filter.OfJson`: filters from JSON values

A filter is written as an object. A key with a dollar sign in front
is a connective over a list of filters; any other key is a property,
with the value that it should have or with one operator.

* `Filter.ofJson`: the filter for a value, or the first fault in the
  order of the text.
-/

set_option autoImplicit false

namespace FilterSql

namespace Clause

/-- Keys of connectives start with a dollar sign. -/
def isConnectiveKey (key : String) : Bool :=
  key.toList.head? = some '$'

/-- The condition on the property `key` that `v` states. An object is
an operator with its operand, unless it is a tagged date. -/
def conditionOfJson (key : String) (v : Json) : Except Error Condition :=
  match v with
  | .object fields =>
    if Json.Fields.isTaggedDate fields then .ok (.equals v)
    else
      match fields with
      | [(symbol, operand)] => do
        let op ← Comparison.parse symbol
        .ok (.compare op operand)
      | _ => .error (.operatorShape key v)
  | .number n =>
    if n.integerText?.isNone then .error (.nonIntegerNumber n)
    else .ok (.equals v)
  | _ => .ok (.equals v)

/-- The clause for a property. -/
def propertyOfJson (key : String) (v : Json) : Except Error Clause :=
  if key = "" then .error (.invalidPropertyKey key)
  else do
    let condition ← conditionOfJson key v
    .ok (.property key condition)

end Clause

namespace Filter

/-- What is asked of the entries of a filter before they are looked
at: it lies not too deep, and it is empty at the top only. -/
def checkEntries (depth : Nat) (fields : Json.Fields) : Except Error Unit :=
  if maxDepth < depth then .error (.tooDeep maxDepth)
  else if 0 < depth && fields.isEmpty then .error .emptyFilter
  else .ok ()

mutual

/-- The clauses for the entries of a filter at the given depth. -/
def clausesOfJson (depth : Nat) :
    List (String × Json) → Except Error (List Clause)
  | [] => .ok []
  | (key, v) :: fields => do
    let clause ← clauseOfJson depth key v
    let clauses ← clausesOfJson depth fields
    .ok (clause :: clauses)

/-- The clause for one entry. -/
def clauseOfJson (depth : Nat) (key : String) :
    Json → Except Error Clause
  | .array items =>
    if Clause.isConnectiveKey key then
      match Connective.ofSymbol? key with
      | none => .error (.unsupportedConnective key)
      | some op =>
        if items.isEmpty then .error (.emptyConnective op)
        else do
          let parts ← partsOfJson (depth + 1) items
          .ok (.joined op parts)
    else Clause.propertyOfJson key (.array items)
  | v =>
    if Clause.isConnectiveKey key then
      match Connective.ofSymbol? key with
      | none => .error (.unsupportedConnective key)
      | some op => .error (.connectiveNotArray op v)
    else Clause.propertyOfJson key v

/-- The filters that a connective joins. -/
def partsOfJson (depth : Nat) : List Json → Except Error (List Filter)
  | [] => .ok []
  | .object fields :: items => do
    checkEntries depth fields
    let clauses ← clausesOfJson depth fields
    let parts ← partsOfJson depth items
    .ok (.all clauses :: parts)
  | v :: _ => .error (.notAnObject v)

end

/-- The filter for a value. An object without entries is a filter
that asks nothing. -/
def ofJson : Json → Except Error Filter
  | .object fields => do
    checkEntries 0 fields
    let clauses ← clausesOfJson 0 fields
    .ok (.all clauses)
  | v => .error (.notAnObject v)

end Filter

end FilterSql
