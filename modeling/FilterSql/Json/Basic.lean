import FilterSql.Binary64.Basic

/-!
# `FilterSql.Json.Basic`: JSON values

Filters, literals and configuration files are JSON documents. An
object keeps its entries in the order in which their keys first
appear, because the order of a filter's clauses is the order of the
condition that it compiles to. A number keeps the form in which it
was written: `3` is an integer and `3.0` a double.

* `Json.Integer`: the integers that fit into 64 bits.
* `Json.Entries.insert`: the last value given for a key stands at the
  place of the first.
-/

set_option autoImplicit false

namespace FilterSql

namespace Json

/-- An integer that fits into 64 bits, with a sign or without one. -/
structure Integer where
  val : Int
  lower : -(1 <<< 63 : Nat) ≤ val
  upper : val < (1 <<< 64 : Nat)
deriving DecidableEq

namespace Integer

/-- A natural number as an unsigned word holds it, modulo `2 ^ 64`. -/
def ofNat (n : Nat) : Integer where
  val := (n % (1 <<< 64) : Nat)
  lower := Int.le_trans (by decide) (Int.natCast_nonneg _)
  upper := Int.ofNat_lt.mpr (Nat.mod_lt _ (by decide))

instance (n : Nat) : OfNat Integer n := ⟨ofNat n⟩

instance : Coe Nat Integer := ⟨ofNat⟩

/-- The integer without its sign, if it has none; otherwise zero. -/
def toNat (i : Integer) : Nat :=
  i.val.toNat

end Integer

/-- A number. What is not an integer of 64 bits is a double, negative
zero among them. -/
inductive Number where
  | integer (i : Integer)
  | double (x : Binary64)
deriving DecidableEq

end Json

/-- A JSON value. The keys of an object that has been read are
distinct. -/
inductive Json where
  | null
  | bool (b : Bool)
  | number (n : Json.Number)
  | string (s : String)
  | array (items : List Json)
  | object (fields : List (String × Json))

namespace Json

/-- The entries of an object in order, with an `α` for every key. -/
abbrev Entries (α : Type) := List (String × α)

/-- The entries after `key` is given `v`: a known key keeps its place,
a new one comes last. -/
def Entries.insert {α : Type} (key : String) (v : α) : Entries α → Entries α
  | [] => [(key, v)]
  | (k, w) :: entries =>
    if k = key then (k, v) :: entries else (k, w) :: insert key v entries

/-- The entries of an object with their values. -/
abbrev Fields := Entries Json

/-- The value of `key`, if there is one. -/
def Fields.get? (fields : Fields) (key : String) : Option Json :=
  fields.lookup key

/-- A list of texts as an array. -/
def ofStrings (texts : List String) : Json :=
  .array (texts.map .string)

end Json

end FilterSql
