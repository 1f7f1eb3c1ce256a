import FilterSql.Json.Pass
import FilterSql.Json.Typed
import FilterSql.Layout

/-!
# `FilterSql.Settings.Section`: column layouts from JSON text

A layout is written as an object with up to three entries, or as an
array of their values in order. It is read straight from the text and
not by way of a JSON value, so that a repeated entry is noticed and
the first fault from the left is the one that is reported.

A layout comes in two forms. On its own, entries may be missing but
not `null`. As the section of a settings file, entries may be `null`,
which is the same as missing, and the array form must be complete.

* `Section.scan`: a section at the front of a text.
* `Layout.read`: a whole text as a layout, missing entries having
  their usual values.
-/

set_option autoImplicit false

namespace FilterSql

open Json (Failure Scan)
open Sql (Backend)

/-! ### Backends -/

/-- The backend with this name, as part of a text. -/
def Sql.Backend.named (name : String) (rest : List Char) :
    Except Failure Backend :=
  match Backend.ofName? name with
  | some backend => .ok backend
  | none =>
    .error ⟨.unfit ("unknown variant `" ++ name ++
      "`, expected `hana` or `duckdb`"), rest, 0⟩

/-- The value in the long form of a backend, which has to be `null`. -/
def Sql.Backend.noPayload (cs : List Char) : Except Failure (List Char) :=
  match Scan.skipSpaces cs with
  | 'n' :: rest => Scan.word ['u', 'l', 'l'] rest
  | cs => .error (Scan.mismatch "unit" cs)

/-- The end of the long form of a backend. -/
def Sql.Backend.payloadEnd (cs : List Char) : Except Failure (List Char) :=
  match Scan.skipSpaces cs with
  | '\x7d' :: rest => .ok rest
  | [] => .error ⟨.endInObject, [], 0⟩
  | cs => .error ⟨.valueExpected, cs, 0⟩

/-- A backend: its name, or an object with the name as its only key
and `null` as the value. An object without a key lacks a value, one
with another kind of key has a bad key. -/
def Sql.Backend.scan : Scan Backend := fun cs =>
  match Scan.skipSpaces cs with
  | [] => .error ⟨.endInValue, [], 0⟩
  | '"' :: rest => do
    let (name, rest) ← Scan.string rest
    let backend ← named name rest
    .ok (backend, rest)
  | '\x7b' :: rest =>
    match Scan.skipSpaces rest with
    | '"' :: rest => do
      let (name, rest) ← Scan.string rest
      let backend ← named name rest
      let rest ← Scan.colon rest
      let rest ← noPayload rest
      let rest ← payloadEnd rest
      .ok (backend, rest)
    | [] => .error ⟨.endInValue, [], 0⟩
    | '\x7d' :: rest => .error ⟨.valueExpected, '\x7d' :: rest, 1⟩
    | cs => .error ⟨.keyExpected, cs, 1⟩
  | cs => .error ⟨.valueExpected, cs, 1⟩

/-! ### Sections -/

namespace Settings

/-- The two places where a layout is written. -/
inductive Form where
  /-- On its own: nothing is `null`, and the array form may be cut
  short. -/
  | alone
  /-- In a settings file: everything may be `null`, and the array form
  is complete. -/
  | inFile
deriving DecidableEq

/-- What a message calls a layout. -/
def Form.title : Form → String
  | alone => "struct FilterConfig"
  | inFile => "struct FilterFileConfig"

/-- The entries of a layout as far as they have been read: `none`
where there was no entry yet, `some none` for `null`. -/
structure Section where
  backend : Option (Option Backend) := none
  metadataColumn : Option (Option String) := none
  specificColumns : Option (Option (List String)) := none

namespace Section

/-- The value of an entry. -/
def slot {α : Type} (form : Form) (item : Scan α) : Scan (Option α) := fun cs =>
  match form with
  | .inFile => Scan.optional item cs
  | .alone => do
    let (x, rest) ← item cs
    .ok (some x, rest)

/-- The value of an entry after its key. The key may not have been
there before. -/
def entry {α : Type} (form : Form) (key : String) (seen : Option (Option α))
    (item : Scan α) : Scan (Option α) := fun cs =>
  if seen.isSome then .error (Scan.repeatedKey key cs)
  else do
    let rest ← Scan.colon cs
    slot form item rest

/-- Takes one entry of the object form in. An unknown entry is passed
over. -/
def member (form : Form) (s : Section) (key : String) : Scan Section :=
  fun cs =>
    if key = "backend" then do
      let (x, rest) ← entry form key s.backend Backend.scan cs
      .ok ({ s with backend := some x }, rest)
    else if key = "metadata_column" then do
      let (x, rest) ← entry form key s.metadataColumn Scan.text cs
      .ok ({ s with metadataColumn := some x }, rest)
    else if key = "specific_columns" then do
      let (x, rest) ← entry form key s.specificColumns Scan.texts cs
      .ok ({ s with specificColumns := some x }, rest)
    else do
      let rest ← Scan.colon cs
      let (_, rest) ← Scan.pass rest
      .ok (s, rest)

/-- The section when the array form ends after `count` items. -/
def cutShort (form : Form) (count : Nat) (s : Section) : Scan Section :=
  fun rest =>
    match form with
    | .alone => .ok (s, rest)
    | .inFile =>
      .error ⟨.unfit ("invalid length " ++ toString count ++ ", expected " ++
        form.title ++ " with 3 elements"), rest, 0⟩

/-- The closing bracket of the array form. -/
def arrayEnd (s : Section) : Scan Section := fun cs =>
  match Scan.skipSpaces cs with
  | [] => .error ⟨.endInList, [], 0⟩
  | ']' :: rest => .ok (s, rest)
  | ',' :: rest =>
    match Scan.skipSpaces rest with
    | ']' :: after => .error ⟨.trailingComma, ']' :: after, 1⟩
    | rest => .error ⟨.trailingCharacters, rest, 1⟩
  | cs => .error ⟨.trailingCharacters, cs, 1⟩

/-- The array form after its opening bracket. -/
def array (form : Form) : Scan Section := fun cs => do
  let (more, cs) ← Scan.nextItem true cs
  if !more then cutShort form 0 {} cs
  else
    let (backend, cs) ← slot form Backend.scan cs
    let s : Section := { backend := some backend }
    let (more, cs) ← Scan.nextItem false cs
    if !more then cutShort form 1 s cs
    else
      let (column, cs) ← slot form Scan.text cs
      let s := { s with metadataColumn := some column }
      let (more, cs) ← Scan.nextItem false cs
      if !more then cutShort form 2 s cs
      else
        let (columns, cs) ← slot form Scan.texts cs
        arrayEnd { s with specificColumns := some columns } cs

/-- A section at the front of a text. -/
def scan (form : Form) : Scan Section := fun cs =>
  match Scan.skipSpaces cs with
  | '[' :: rest => array form rest
  | '\x7b' :: rest => Scan.entries (member form) {} rest
  | cs => .error (Scan.mismatch form.title cs)

/-- The layout for a section, missing entries having their usual
values. -/
def toLayout (s : Section) : Layout :=
  let usual : Layout := {}
  { backend := s.backend.join.getD usual.backend
    metadataColumn := s.metadataColumn.join.getD usual.metadataColumn
    specificColumns := s.specificColumns.join.getD usual.specificColumns }

end Section

end Settings

namespace Layout

/-- A whole text as a layout. -/
def read (text : String) : Except Json.Defect Layout :=
  let cs := text.toList
  let result : Except Failure Layout := do
    let (s, rest) ← Settings.Section.scan .alone cs
    Scan.ending rest
    .ok s.toLayout
  result.mapError (·.defect cs)

/-- A layout as a JSON value. -/
def toJson (layout : Layout) : Json :=
  .object
    [("backend", .string layout.backend.name),
     ("metadata_column", .string layout.metadataColumn),
     ("specific_columns", .ofStrings layout.specificColumns)]

end Layout

end FilterSql
