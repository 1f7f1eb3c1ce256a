import FilterSql.Filter.Operator
import FilterSql.Json.Defect
import FilterSql.Json.Writer

/-!
# `FilterSql.Error`: why a filter or a layout is rejected

Every error is final: no condition is written for a filter with any
fault in it.

* `Error.kind`: five kinds, for callers that only want to know whose
  fault it is.
* `Error.message`: the wording. Values are quoted as compact JSON.
-/

set_option autoImplicit false

namespace FilterSql

/-- The kinds of errors. -/
inductive ErrorKind where
  /-- A wrong shape: counts of keys, empty lists, missing arrays. -/
  | malformedExpression
  /-- An operator that is unknown or stands in the wrong place. -/
  | unsupportedOperator
  /-- A literal that cannot be compared. -/
  | unsupportedValue
  /-- A column layout that cannot be used. -/
  | configuration
  /-- A broken promise of the compiler itself. -/
  | internal
deriving DecidableEq

/-- The causes for rejecting a filter or a layout. -/
inductive Error where
  | invalidJson (defect : Json.Defect)
  | tooLarge (max actual : Nat)
  | tooDeep (max : Nat)
  | notAnObject (actual : Json)
  | emptyFilter
  | invalidPropertyKey (key : String)
  | unsupportedConnective (symbol : String)
  | connectiveNotArray (op : Connective) (actual : Json)
  | emptyConnective (op : Connective)
  | operatorShape (key : String) (actual : Json)
  | unexpectedConnective (op : Connective)
  | unknownOperator (symbol : String)
  | operandNotArray (op : Comparison) (actual : Json)
  | betweenArity (actual : Nat)
  | emptyOperandList (op : Comparison)
  | nonIntegerNumber (value : Json.Number)
  | missingOperand
  | unsupportedValue (value : Json)
  | layout (text : String)
  | internal (text : String)

namespace Error

/-- The kind of an error. -/
def kind : Error → ErrorKind
  | unsupportedConnective _ | unexpectedConnective _ | unknownOperator _ =>
    .unsupportedOperator
  | nonIntegerNumber _ | missingOperand | unsupportedValue _ =>
    .unsupportedValue
  | layout _ => .configuration
  | internal _ => .internal
  | _ => .malformedExpression

/-- Whether the compiler is to blame, and not its input. -/
def isInternal (e : Error) : Bool :=
  e.kind = .internal

/-- The wording of an error. -/
def message : Error → String
  | invalidJson defect => "Invalid filter JSON: " ++ defect.message
  | tooLarge max actual =>
    "Filter JSON exceeds maximum size of " ++ toString max ++
      " bytes (got " ++ toString actual ++ ")"
  | tooDeep max => "Filter nesting exceeds maximum depth of " ++ toString max
  | notAnObject actual => "Expected a filter object, got " ++ actual.compact
  | emptyFilter =>
    "Empty filter object is not allowed inside a logical operator"
  | invalidPropertyKey key =>
    "Invalid property key '" ++ key ++
      "': expected identifier segments separated by '.'"
  | unsupportedConnective symbol =>
    "Unsupported logical operator: " ++ symbol
  | connectiveNotArray op actual =>
    "Logical operator " ++ op.symbol ++
      " expects an array of filters, got " ++ actual.compact
  | emptyConnective op =>
    "Logical operator " ++ op.symbol ++ " requires at least one filter"
  | operatorShape key actual =>
    "Expected exactly one operator for property '" ++ key ++ "', got " ++
      actual.compact
  | unexpectedConnective op =>
    "Did not expect a logical operator here: " ++ op.symbol
  | unknownOperator symbol => "Not a valid column operator: " ++ symbol
  | operandNotArray op actual =>
    "Operator " ++ op.symbol ++ " expects an array operand, got " ++
      actual.compact
  | betweenArity actual =>
    "Operator $between expects an array of 2 values, got " ++
      toString actual ++ " value(s)"
  | emptyOperandList op =>
    "Operator " ++ op.symbol ++ " requires at least one value"
  | nonIntegerNumber value =>
    "Only integer numbers are supported, got " ++ value.text
  | missingOperand => "No operand provided"
  | unsupportedValue value => "Unsupported filter value: " ++ value.compact
  | layout text => "Configuration error: " ++ text
  | internal text => "Internal filter compiler error: " ++ text

/-- The error and what caused it, outermost first. A defect of the
JSON text is a cause of its own. -/
def chain : Error → List String
  | invalidJson defect => [message (invalidJson defect), defect.message]
  | e => [message e]

end Error

/-- The comparison with this symbol. A connective in its place is an
error of its own. -/
def Comparison.parse (symbol : String) : Except Error Comparison :=
  match Connective.ofSymbol? symbol with
  | some op => .error (.unexpectedConnective op)
  | none =>
    match ofSymbol? symbol with
    | some op => .ok op
    | none => .error (.unknownOperator symbol)

end FilterSql
