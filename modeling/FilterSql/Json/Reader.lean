import FilterSql.Json.Scan

/-!
# `FilterSql.Json.Reader`: reading JSON text

Values from text. The reader counts how many brackets may still be
opened, which bounds the nesting of what it accepts and is at the
same time what its recursion runs on. What it makes of the parts of a
document is left to a `Builder`.

* `Json.Scan.valueOf`: what a builder makes of one value at the front
  of a text.
* `Json.Scan.value`: the value itself.
* `Json.read`: a whole text as one value.
-/

set_option autoImplicit false

namespace FilterSql.Json

/-- The number of brackets that may be open at a time. -/
def maxNesting : Nat := 127

/-- What is made of the parts of a document. -/
structure Builder (α : Type) where
  null : α
  bool : Bool → α
  /-- `none` for a numeral that is out of range. -/
  number? : Numeral → Option α
  string : String → α
  array : List α → α
  object : Entries α → α

/-- Documents as values. -/
def Builder.values : Builder Json where
  null := .null
  bool := .bool
  number? n := n.number?.map .number
  string := .string
  array := .array
  object := .object

namespace Scan

section
variable {α : Type}

/-- One entry of an object after its key. -/
def member (inner : Scan α) (entries : Entries α) (key : String) :
    Scan (Entries α) := fun cs => do
  let cs ← colon cs
  let (v, cs) ← inner cs
  .ok (entries.insert key v, cs)

/-- What `build` makes of a value whose parts are read by `inner`;
without an `inner` nothing may be opened any more. -/
def valueWith (build : Builder α) (inner : Option (Scan α)) : Scan α := fun cs =>
  match skipSpaces cs with
  | [] => .error ⟨.endInValue, [], 0⟩
  | 'n' :: rest => do
    let rest ← word ['u', 'l', 'l'] rest
    .ok (build.null, rest)
  | 't' :: rest => do
    let rest ← word ['r', 'u', 'e'] rest
    .ok (build.bool true, rest)
  | 'f' :: rest => do
    let rest ← word ['a', 'l', 's', 'e'] rest
    .ok (build.bool false, rest)
  | '"' :: rest => do
    let (s, rest) ← string rest
    .ok (build.string s, rest)
  | '[' :: rest =>
    match inner with
    | none => .error ⟨.nesting, '[' :: rest, 1⟩
    | some inner => do
      let (vs, rest) ← items inner rest
      .ok (build.array vs, rest)
  | '\x7b' :: rest =>
    match inner with
    | none => .error ⟨.nesting, '\x7b' :: rest, 1⟩
    | some inner => do
      let (entries, rest) ← entries (member inner) [] rest
      .ok (build.object entries, rest)
  | c :: rest =>
    if c = '-' || c.isDigit then number build.number? (c :: rest)
    else .error ⟨.valueExpected, c :: rest, 1⟩

/-- What `build` makes of a value in which at most `levels` brackets
are open at a time. -/
def valueOf (build : Builder α) : (levels : Nat) → Scan α
  | 0 => valueWith build none
  | levels + 1 => valueWith build (some (valueOf build levels))

end

/-- A value in which at most `levels` brackets are open at a time. -/
def value : (levels : Nat) → Scan Json :=
  valueOf .values

end Scan

/-- A whole text as one value. -/
def read (text : String) : Except Defect Json :=
  let cs := text.toList
  let result : Except Failure Json := do
    let (v, rest) ← Scan.value maxNesting cs
    Scan.ending rest
    .ok v
  result.mapError (·.defect cs)

end FilterSql.Json
