import FilterSql.Filter.Operator
import FilterSql.Sql.Backend
import FilterSql.Text.Segments

/-!
# `FilterSql.Event`: what is logged

Everything that the library reports while it works, as data. Whoever
calls it decides which events to keep (`Event.shown`) and where they
go.
-/

set_option autoImplicit false

namespace FilterSql

/-- How important an event is, from the most to the least. -/
inductive Level where
  | error
  | warn
  | info
  | debug
  | trace
deriving DecidableEq

namespace Level

/-- The name of a level. -/
def name : Level → String
  | error => "ERROR"
  | warn => "WARN"
  | info => "INFO"
  | debug => "DEBUG"
  | trace => "TRACE"

/-- How many levels are at least as important. -/
def rank : Level → Nat
  | error => 1
  | warn => 2
  | info => 3
  | debug => 4
  | trace => 5

/-- All levels, the most important first. -/
def all : List Level :=
  [error, warn, info, debug, trace]

/-- The level with this name, capitals and small letters alike. -/
def parse? (s : String) : Option Level :=
  all.find? fun level =>
    level.name.toList.map Char.toLower = s.toList.map Char.toLower

end Level

/-- An event. -/
inductive Event where
  /-- A text is bound without a type. -/
  | untypedText (value : String)
  /-- A connective is about to be compiled. -/
  | connective (op : Connective) (parts : Nat)
  /-- A comparison is about to be compiled. -/
  | comparison (key : String) (op : Comparison)
  /-- A filter has been compiled. -/
  | compiled (backend : Sql.Backend) (params : Nat) (sql : String)
  /-- The compiler has broken a promise. -/
  | invariantViolated (text : String)
  /-- The settings are about to be collected. -/
  | loading
  /-- A settings file is about to be read. -/
  | loadingFile (path : String)
  /-- A settings file has entries that mean nothing. -/
  | unknownFields (names : List String)
  /-- The settings have been collected. -/
  | loaded (backend : Sql.Backend) (metadataColumn : String) (columns : Nat)
deriving DecidableEq

namespace Event

/-- The importance of an event. -/
def level : Event → Level
  | untypedText _ | unknownFields _ => .warn
  | connective .. | comparison .. => .trace
  | compiled .. | loading | loadingFile _ | loaded .. => .debug
  | invariantViolated _ => .error

/-- The wording of an event. -/
def message : Event → String
  | untypedText _ =>
    "Binding string literal without a type cast; " ++
      "comparison uses the column's native type"
  | connective .. => "Compiling logical clause"
  | comparison .. => "Compiling column operation"
  | compiled .. => "Compiled filter"
  | invariantViolated _ => "Filter compiler invariant violated"
  | loading => "Loading application configuration"
  | loadingFile _ => "Loading config file"
  | unknownFields _ => "Unknown fields in config file (possible typos)"
  | loaded .. => "Configuration loaded"

/-- The particulars of an event, by name. -/
def fields : Event → List (String × String)
  | untypedText value => [("value", value)]
  | connective op parts =>
    [("op", op.symbol), ("children", toString parts)]
  | comparison key op => [("key", key), ("op", op.symbol)]
  | compiled backend params sql =>
    [("backend", backend.name), ("params", toString params), ("clause", sql)]
  | invariantViolated text => [("error", text)]
  | loading => []
  | loadingFile path => [("path", path)]
  | unknownFields names => [("fields", Text.joined ", " names)]
  | loaded backend metadataColumn columns =>
    [("backend", backend.name), ("metadata_column", metadataColumn),
     ("specific_columns", toString columns)]

/-- An event on one line. -/
def line (e : Event) : String :=
  Text.joined " " (e.level.name :: e.message ::
    e.fields.map fun field => field.1 ++ "=" ++ field.2)

/-- The events that are at least as important as `threshold`; none
without a threshold. -/
def shown (threshold : Option Level) (events : List Event) : List Event :=
  match threshold with
  | none => []
  | some level => events.filter fun e => e.level.rank ≤ level.rank

end Event

end FilterSql
