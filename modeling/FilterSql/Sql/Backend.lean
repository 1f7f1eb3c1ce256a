import FilterSql.Sql.Quoted

/-!
# `FilterSql.Sql.Backend`: the two SQL dialects

The conditions for all databases have the same shape. What differs is
how a property is taken out of the JSON column, how a parameter gets
its type, whether the other side of a comparison has to be converted
too, and how text is searched.
-/

set_option autoImplicit false

namespace FilterSql.Sql

/-- The type that a parameter is compared as. Every parameter is bound
as text. -/
inductive Cast where
  | boolean
  | double
  | date
deriving DecidableEq

/-- The SQL name of a type. -/
def Cast.sqlType : Cast → String
  | boolean => "BOOLEAN"
  | double => "DOUBLE"
  | date => "DATE"

/-- A database that conditions are written for. -/
inductive Backend where
  | hana
  | duckdb
deriving DecidableEq

namespace Backend

/-- The name of a backend. -/
def name : Backend → String
  | hana => "hana"
  | duckdb => "duckdb"

/-- The backend with exactly this name. -/
def ofName? (s : String) : Option Backend :=
  if s = "hana" then some hana
  else if s = "duckdb" then some duckdb
  else none

/-- Lower case as far as names of backends go: outside ASCII only the
Kelvin sign is the capital of a letter inside it. -/
def lowered (c : Char) : Char :=
  if c = '\u212A' then 'k' else c.toLower

/-- The backend with this name, capitals and small letters alike. -/
def parse? (s : String) : Option Backend :=
  ofName? (String.ofList (s.toList.map lowered))

/-- What is said about a name that no backend has. -/
def unknownMessage (s : String) : String :=
  "Invalid backend '" ++ s ++ "'. Valid options: hana, duckdb"

/-- A property of the metadata, taken out of the JSON column. -/
def jsonValue (backend : Backend) (column path : String) : String :=
  let function := match backend with
    | hana => "JSON_VALUE"
    | duckdb => "json_extract_string"
  function ++ "(" ++ quotedName column ++ ", '$." ++ escapedString path ++ "')"

/-- A placeholder for a parameter of the given type. -/
def typedPlaceholder : Backend → Cast → String
  | hana, cast => "TO_" ++ cast.sqlType ++ "(?)"
  | duckdb, cast => "?::" ++ cast.sqlType

/-- The column side of a comparison with literals of type `cast`.
Hana compares JSON text with typed values as it is. -/
def castSelector : Backend → String → Option Cast → String
  | duckdb, selector, some cast =>
    "TRY_CAST(" ++ selector ++ " AS " ++ cast.sqlType ++ ")"
  | _, selector, _ => selector

/-- The condition that a column contains a text. -/
def textSearch : Backend → (selector placeholder : String) → String
  | hana, selector, placeholder =>
    "SCORE(" ++ placeholder ++ " IN (" ++ selector ++
      " EXACT SEARCH MODE 'text')) > 0"
  | duckdb, selector, placeholder =>
    "contains(" ++ selector ++ ", " ++ placeholder ++ ")"

end Backend

end FilterSql.Sql
