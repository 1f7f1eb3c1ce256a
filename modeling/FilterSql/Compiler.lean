import FilterSql.Filter.OfText
import FilterSql.Fragment
import FilterSql.Layout
import FilterSql.Literal

/-!
# `FilterSql.Compiler`: filters to SQL

A compiler is a layout that has passed its check. It turns filters
into conditions: every literal becomes a placeholder, and its parameter
is bound as the placeholder is written, so that the parameters come in
the order of the placeholders.

The compiler does not rely on how a filter was made. Trees made in
code may be too deep or empty inside, so both are checked again here.

* `Compiler.compile`: a filter as a bare condition.
* `Compiler.compileComparison`: a single comparison.
* `Compiler.build`, `Compiler.buildJson`, `Compiler.buildText`: a
  filter, if there is one, as a clause to put behind a query.
-/

set_option autoImplicit false

namespace FilterSql

namespace Layout

/-! ### Comparisons -/

/-- Writes a comparison of a selected property. -/
def writeOperation (layout : Layout) (selector : String) (op : Comparison)
    (operand : Json) : Writing String :=
  let backend := layout.backend
  match op.shape with
  | .textSearch => do
    let literal ← Literal.encode backend operand
    Writing.push literal.param
    pure (backend.textSearch selector literal.placeholder)
  | .range =>
    match operand with
    | .array [low, high] => do
      let low ← Literal.encode backend low
      let high ← Literal.encode backend high
      let selector := backend.castSelector selector (Literal.sharedCast [low, high])
      Writing.push low.param
      Writing.push high.param
      pure
        (selector ++ " " ++ op.keyword ++ " " ++ low.placeholder ++ " AND " ++
          high.placeholder)
    | .array bounds => Writing.fail (.betweenArity bounds.length)
    | _ => Writing.fail (.operandNotArray op operand)
  | .list =>
    match operand with
    | .array [] => Writing.fail (.emptyOperandList op)
    | .array items => do
      let literals ← Literal.encodeAll backend items
      let selector := backend.castSelector selector (Literal.sharedCast literals)
      Writing.pushAll (literals.map Literal.param)
      pure
        (selector ++ " " ++ op.keyword ++ " (" ++
          Text.joined ", " (literals.map Literal.placeholder) ++ ")")
    | _ => Writing.fail (.operandNotArray op operand)
  | .binary => do
    let literal ← Literal.encode backend operand
    let selector := backend.castSelector selector literal.cast
    Writing.push literal.param
    pure (selector ++ " " ++ op.keyword ++ " " ++ literal.placeholder)

/-- Writes a comparison. -/
def writeComparison (layout : Layout) (key : String) (op : Comparison)
    (operand : Json) : Writing String := do
  let selector ← Traced.ofExcept (layout.selector key)
  Writing.emit (.comparison key op)
  layout.writeOperation selector op operand

/-- Writes an equality with a value. -/
def writeEquality (layout : Layout) (key : String) (v : Json) :
    Writing String := do
  let selector ← Traced.ofExcept (layout.selector key)
  let literal ← Literal.encode layout.backend v
  let selector := layout.backend.castSelector selector literal.cast
  Writing.push literal.param
  pure (selector ++ " = " ++ literal.placeholder)

/-- Writes a condition on a property. -/
def writeProperty (layout : Layout) (key : String) : Condition → Writing String
  | .equals v => layout.writeEquality key v
  | .compare op operand => layout.writeComparison key op operand

/-! ### Trees -/

/-- What is asked of a filter before its clauses are looked at. -/
def checkClauses {α : Type} (depth : Nat) (clauses : List α) : Except Error Unit :=
  if Filter.maxDepth < depth then .error (.tooDeep Filter.maxDepth)
  else if clauses.isEmpty then .error .emptyFilter
  else .ok ()

mutual

/-- Writes a filter at the given depth. -/
def walk (layout : Layout) (depth : Nat) : Filter → Writing String
  | .all cs => do
    Traced.ofExcept (checkClauses depth cs)
    let texts ← layout.walkClauses depth cs
    Fragment.joinTexts .and texts

/-- Writes a clause. -/
def walkClause (layout : Layout) (depth : Nat) : Clause → Writing String
  | .property key condition => layout.writeProperty key condition
  | .joined op parts => do
    Writing.emit (.connective op parts.length)
    if parts.isEmpty then Writing.fail (.emptyConnective op)
    else
      let texts ← layout.walkFilters (depth + 1) parts
      Fragment.joinTexts op texts

/-- Writes the clauses of a filter. -/
def walkClauses (layout : Layout) (depth : Nat) :
    List Clause → Writing (List String)
  | [] => pure []
  | c :: cs => do
    let text ← layout.walkClause depth c
    let texts ← layout.walkClauses depth cs
    pure (text :: texts)

/-- Writes the filters that a connective joins. -/
def walkFilters (layout : Layout) (depth : Nat) :
    List Filter → Writing (List String)
  | [] => pure []
  | f :: fs => do
    let text ← layout.walk depth f
    let texts ← layout.walkFilters depth fs
    pure (text :: texts)

end

end Layout

/-- A layout that has passed its check. -/
structure Compiler where
  layout : Layout
  checked : layout.check = .ok ()

namespace Compiler

/-- The compiler for a layout. -/
def ofLayout (layout : Layout) : Except Error Compiler :=
  match h : layout.check with
  | .ok () => .ok ⟨layout, h⟩
  | .error e => .error e

/-- A filter as a bare condition. -/
def compile (compiler : Compiler) (filter : Filter) : Traced Error Fragment :=
  (compiler.layout.walk 0 filter).fragment

/-- A single comparison, given by the symbol of its operator. -/
def compileComparison (compiler : Compiler) (key symbol : String)
    (operand : Json) : Traced Error Fragment := do
  let op ← .ofExcept (Comparison.parse symbol)
  (compiler.layout.writeComparison key op operand).fragment

/-- A fragment must have a parameter for every placeholder. -/
def checkParity (fragment : Fragment) : Traced Error Unit :=
  let placeholders := Sql.placeholders fragment.sql
  if placeholders = fragment.params.length then pure ()
  else
    brokenPromise ("clause has " ++ toString placeholders ++
      " placeholder(s) but " ++ toString fragment.params.length ++
      " parameter(s): " ++ fragment.sql)

/-- The clause for a filter. No filter, and one that asks nothing,
give the empty clause. -/
def build (compiler : Compiler) : Option Filter → Traced Error WhereClause
  | none => pure .empty
  | some filter =>
    if filter.isEmpty then pure .empty
    else do
      let fragment ← compiler.compile filter
      checkParity fragment
      .emit (.compiled compiler.layout.backend fragment.params.length
        fragment.sql)
      pure (.ofFragment fragment)

/-- The clause for a JSON value; `null` means no filter. -/
def buildJson (compiler : Compiler) : Option Json → Traced Error WhereClause
  | none | some .null => pure .empty
  | some v => do
    let filter ← .ofExcept (Filter.ofJson v)
    compiler.build (some filter)

/-- The clause for a JSON text. -/
def buildText (compiler : Compiler) (text : String) :
    Traced Error WhereClause := do
  let filter ← .ofExcept (Filter.ofText text)
  compiler.build filter

end Compiler

end FilterSql
