import FilterSql.Error
import FilterSql.Sql.Backend
import FilterSql.Text.Blank

/-!
# `FilterSql.Layout`: where properties live

A property has a dedicated column or is part of the JSON column that
holds all other metadata. The layout says which, and gives the SQL
text that selects it.

* `Layout.check`: column names are not blank and hold no `?`.
* `Layout.selector`: the SQL text for a key. A key that is not a
  dedicated column becomes part of a path and must look like one.
-/

set_option autoImplicit false

namespace FilterSql

/-- The columns of a table and the backend that it lives in. -/
structure Layout where
  backend : Sql.Backend := .hana
  /-- The JSON column with all properties without a dedicated one. -/
  metadataColumn : String := "VEC_META"
  /-- The properties that have a dedicated column of the same name. -/
  specificColumns : List String := []
deriving DecidableEq

namespace Layout

/-! ### Column names -/

/-- A question mark in a name would count as a placeholder. -/
def hasPlaceholder (name : String) : Bool :=
  name.toList.contains '?'

/-- The names of dedicated columns, one after the other. -/
def checkColumns : List String → Except Error Unit
  | [] => .ok ()
  | name :: names =>
    if Text.allBlank name then
      .error (.layout "specific_columns must not contain empty names")
    else if hasPlaceholder name then
      .error (.layout ("specific column must not contain '?': " ++ name))
    else checkColumns names

/-- A layout can be used if no column name is blank or holds a
question mark. -/
def check (layout : Layout) : Except Error Unit :=
  if Text.allBlank layout.metadataColumn then
    .error (.layout "metadata_column must not be empty")
  else if hasPlaceholder layout.metadataColumn then
    .error (.layout ("metadata_column must not contain '?': " ++
      layout.metadataColumn))
  else checkColumns layout.specificColumns

/-! ### Keys -/

/-- The first characters of a segment of a path. -/
def startsSegment (c : Char) : Bool :=
  c.isAlpha || c = '_'

/-- The other characters of a segment of a path. -/
def inSegment (c : Char) : Bool :=
  c.isAlphanum || c = '_'

/-- Whether a text goes on as a path; `fresh` where a segment has to
start. -/
def isPathFrom : (fresh : Bool) → List Char → Bool
  | true, [] => false
  | true, c :: cs => startsSegment c && isPathFrom false cs
  | false, [] => true
  | false, c :: cs =>
    if c = '.' then isPathFrom true cs else inSegment c && isPathFrom false cs

/-- A path is made of identifiers with points between them. -/
def isPath (key : String) : Bool :=
  isPathFrom true key.toList

/-- Whether a key has a dedicated column. -/
def isSpecific (layout : Layout) (key : String) : Bool :=
  layout.specificColumns.contains key

/-- The SQL text that selects the property `key`. -/
def selector (layout : Layout) (key : String) : Except Error String :=
  if layout.isSpecific key then .ok (Sql.quotedName key)
  else if isPath key then
    .ok (layout.backend.jsonValue layout.metadataColumn key)
  else .error (.invalidPropertyKey key)

end Layout

end FilterSql
