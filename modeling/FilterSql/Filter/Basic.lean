import FilterSql.Filter.Operator
import FilterSql.Json.Basic

/-!
# `FilterSql.Filter.Basic`: filters as trees

A filter is a list of clauses that all have to hold. A clause either
compares one property or joins filters by a connective. Trees made in
code may have any shape; `FilterSql.Filter.OfJson` says which of them
come from JSON.
-/

set_option autoImplicit false

namespace FilterSql

/-- What is asked of one property. -/
inductive Condition where
  /-- The property has this value. -/
  | equals (value : Json)
  /-- The property compares like this with the operand. -/
  | compare (op : Comparison) (operand : Json)

mutual

/-- A filter: all its clauses have to hold. -/
inductive Filter where
  | all (clauses : List Clause)

/-- One clause of a filter. -/
inductive Clause where
  /-- Filters joined by a connective. -/
  | joined (op : Connective) (parts : List Filter)
  /-- A condition on one property. -/
  | property (key : String) (condition : Condition)

end

namespace Filter

/-- The clauses of a filter in order. -/
def clauses : Filter → List Clause
  | all clauses => clauses

/-- A filter without clauses asks nothing. -/
def isEmpty (filter : Filter) : Bool :=
  filter.clauses.isEmpty

/-- How deep connectives may be nested. -/
def maxDepth : Nat := 32

end Filter

end FilterSql
