import FilterSql.Error
import FilterSql.Sql.Quoted
import FilterSql.Text.Blank
import FilterSql.Text.Segments
import FilterSql.Traced

/-!
# `FilterSql.Fragment`: SQL text with its parameters

A fragment is a condition in SQL and the texts that its placeholders
stand for, in the order of the placeholders. It is put together by
`Writing`: the parts of a condition are written from left to right, and
each binds its parameters behind those of the parts before it. A
`WhereClause` is a whole fragment ready to follow a query.

* `Fragment.joinTexts`: one condition stays as it is, several go into
  parentheses. Joining nothing, or a condition without text, would
  change the meaning of the whole, so both are errors.
* `Writing.fragment`: what has been written, with its parameters.
-/

set_option autoImplicit false

namespace FilterSql

/-- The texts that placeholders stand for, in their order. -/
abbrev Params := List String

/-- One more parameter at the end. -/
def Params.push (params : Params) (value : String) : Params :=
  params ++ [value]

/-- A condition in SQL with its parameters. -/
structure Fragment where
  sql : String
  params : Params
deriving DecidableEq

/-- Reports a broken promise and gives up. -/
def brokenPromise {α : Type} (text : String) : Traced Error α := do
  .emit (.invariantViolated text)
  .fail (.internal text)

namespace Fragment

/-- A text in parentheses. -/
def parenthesized (sql : String) : String :=
  "(" ++ sql ++ ")"

/-- Conditions joined by a connective. -/
def joinTexts (op : Connective) (texts : List String) : Traced Error String :=
  match texts with
  | [] => brokenPromise ("no clauses to join with " ++ op.keyword)
  | [text] =>
    if text = "" then
      brokenPromise ("empty clause passed to " ++ op.keyword ++ " join")
    else pure text
  | texts =>
    if texts.contains "" then
      brokenPromise ("empty clause passed to " ++ op.keyword ++ " join")
    else
      pure (Text.joined (" " ++ op.keyword ++ " ") (texts.map parenthesized))

end Fragment

/-! ### Writing -/

/-- Work on a text that binds parameters as it goes, behind those that
are bound already. -/
abbrev Writing :=
  StateT Params (Traced Error)

namespace Writing

/-- Binds one more parameter. -/
def push (value : String) : Writing Unit :=
  modify (·.push value)

/-- Binds several parameters, one after the other. -/
def pushAll (values : List String) : Writing Unit :=
  modify (· ++ values)

/-- One event and nothing else. -/
def emit (event : Event) : Writing Unit :=
  StateT.lift (Traced.emit event)

/-- Gives up. -/
def fail {α : Type} (e : Error) : Writing α :=
  StateT.lift (Traced.fail e)

/-- The text that is written and the parameters bound for it, from
the beginning. -/
def fragment (w : Writing String) : Traced Error Fragment := do
  let (sql, params) ← w.run []
  pure ⟨sql, params⟩

end Writing

/-! ### Clauses behind a query -/

/-- A condition to put behind a query, with its parameters. Without a
filter there is no text at all. -/
structure WhereClause where
  sql : String
  params : Params
deriving DecidableEq

namespace WhereClause

/-- The clause that asks nothing. -/
def empty : WhereClause :=
  ⟨"", []⟩

/-- The clause for a fragment. -/
def ofFragment (fragment : Fragment) : WhereClause :=
  ⟨"WHERE " ++ fragment.sql, fragment.params⟩

/-- Whether there is anything to put behind a query. -/
def isEmpty (clause : WhereClause) : Bool :=
  clause.sql = ""

/-- The number of placeholders. -/
def placeholders (clause : WhereClause) : Nat :=
  Sql.placeholders clause.sql

/-- A query with the clause behind it, one space between them. -/
def appendTo (clause : WhereClause) (base : String) : String :=
  if clause.isEmpty then base else Text.trimEnd base ++ " " ++ clause.sql

/-- The clause as a JSON value. -/
def toJson (clause : WhereClause) : Json :=
  .object [("sql", .string clause.sql), ("params", .ofStrings clause.params)]

end WhereClause

end FilterSql
