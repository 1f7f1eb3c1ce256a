/-!
# `FilterSql.Filter.Operator`: connectives and comparisons

The operators that a filter can use, with their symbol in the filter,
their word in SQL and the form that a comparison takes.
-/

set_option autoImplicit false

namespace FilterSql

/-- A connective between filters. -/
inductive Connective where
  | and
  | or
deriving DecidableEq

namespace Connective

/-- The symbol in a filter. -/
def symbol : Connective → String
  | and => "$and"
  | or => "$or"

/-- The word in SQL. -/
def keyword : Connective → String
  | and => "AND"
  | or => "OR"

/-- The connective with this symbol. -/
def ofSymbol? (s : String) : Option Connective :=
  if s = "$and" then some and
  else if s = "$or" then some or
  else none

end Connective

/-- The form that a comparison takes in SQL. -/
inductive Shape where
  /-- The column, the word, one placeholder. -/
  | binary
  /-- The column, the word, a list of placeholders. -/
  | list
  /-- The column, the word, a lower and an upper placeholder. -/
  | range
  /-- A search of the backend's own. -/
  | textSearch
deriving DecidableEq

/-- The name of a form in the table of operators. -/
def Shape.name : Shape → String
  | binary => "Binary"
  | list => "List"
  | range => "Range"
  | textSearch => "TextSearch"

/-- A comparison of a property with literals. -/
inductive Comparison where
  | equal
  | notEqual
  | less
  | lessOrEqual
  | greater
  | greaterOrEqual
  | oneOf
  | noneOf
  | between
  | like
  | contains
deriving DecidableEq

namespace Comparison

/-- All comparisons in the order of the table of operators. -/
def all : List Comparison :=
  [equal, notEqual, less, lessOrEqual, greater, greaterOrEqual, oneOf,
   noneOf, between, like, contains]

/-- The symbol in a filter. -/
def symbol : Comparison → String
  | equal => "$eq"
  | notEqual => "$ne"
  | less => "$lt"
  | lessOrEqual => "$lte"
  | greater => "$gt"
  | greaterOrEqual => "$gte"
  | oneOf => "$in"
  | noneOf => "$nin"
  | between => "$between"
  | like => "$like"
  | contains => "$contains"

/-- The word in SQL. -/
def keyword : Comparison → String
  | equal => "="
  | notEqual => "<>"
  | less => "<"
  | lessOrEqual => "<="
  | greater => ">"
  | greaterOrEqual => ">="
  | oneOf => "IN"
  | noneOf => "NOT IN"
  | between => "BETWEEN"
  | like => "LIKE"
  | contains => "SCORE"

/-- The form in SQL. -/
def shape : Comparison → Shape
  | oneOf | noneOf => .list
  | between => .range
  | contains => .textSearch
  | _ => .binary

/-- The comparison with this symbol. -/
def ofSymbol? (s : String) : Option Comparison :=
  all.find? fun op => op.symbol = s

end Comparison

end FilterSql
