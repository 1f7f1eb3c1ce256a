import FilterSql.Proofs.LiteralValues
import FilterSql.Proofs.SingleComparison

/-!
# `FilterSql.Proofs.DedicatedColumns`: which columns a JSON filter can reach

Three modules have a say in what a key may be. The check of a layout
refuses names that are blank or hold a question mark. The reader of JSON
filters refuses the empty key and takes a dollar sign in front for a
connective. The selector takes any name that has a column. A dedicated
column passes the first and the last, and whether a filter can name it
hangs on its first character alone.

* `Compiler.buildJson_condition`: a filter with one condition, as what is
  wrong with the condition and as its fragment.
* `Comparison.Binds`: an operand that can be bound for an operator.
* `Filter.ofJson_of_dollar`: a name that is taken for a connective.
-/

set_option autoImplicit false

namespace FilterSql

open Sql (Backend)

/-! ### Operands that can be bound -/

namespace Comparison

/-- The shape of an operand is right exactly if it holds as many literals
as the operator asks for. -/
theorem shapeDefects_eq_nil_iff_fits (op : Comparison) (operand : Json) :
    op.shapeDefects operand = [] ↔ op.shape.Fits (op.literals operand) := by
  constructor
  · exact fits_literals
  · intro h
    unfold literals at h
    unfold shapeDefects
    cases hshape : op.shape with
    | binary => rfl
    | textSearch => rfl
    | list =>
        simp only [hshape] at h
        cases operand with
        | array items =>
            cases h with
            | list v vs => rfl
        | _ => cases h
    | range =>
        simp only [hshape] at h
        cases operand with
        | array items =>
            cases h with
            | range low high => rfl
        | _ => cases h

/-- The literals that are bound for an operand: it holds as many values as
the operator asks for, and every value has its literal. -/
structure Binds (backend : Backend) (op : Comparison) (operand : Json)
    (literals : List Literal) : Prop where
  shape : op.shape.Fits (op.literals operand)
  encoded : (Literal.encodeAll backend (op.literals operand)).outcome = .ok literals

/-- An operand is bound if it has the right shape and its literals have
no defect. -/
theorem binds_iff {backend : Backend} {op : Comparison} {operand : Json}
    {literals : List Literal} :
    op.Binds backend operand literals ↔
      op.shapeDefects operand ++ (op.literals operand).flatMap Literal.defects = [] ∧
        (op.literals operand).map (Literal.ofJson backend) = literals := by
  rw [List.append_eq_nil_iff, shapeDefects_eq_nil_iff_fits, and_assoc, ← report_eq_ok_iff,
    ← Literal.encodeAll_outcome]
  exact ⟨fun h => ⟨h.shape, h.encoded⟩, fun h => ⟨h.1, h.2⟩⟩

end Comparison

/-- A value that can be bound can stand bare behind its property. -/
theorem Json.isBare_of_encodable {v : Json} (h : Literal.Encodable v) : v.IsBare := by
  cases h with
  | bool b => trivial
  | number n hwhole => exact hwhole
  | string s hs => trivial
  | date fields date htag => exact htag

/-! ### Keys that are taken for connectives -/

namespace Filter

/-- What is said about a value that is no array behind a key with a dollar
sign in front. -/
def refusal (key : String) (v : Json) : Error :=
  match Connective.ofSymbol? key with
  | none => .unsupportedConnective key
  | some op => .connectiveNotArray op v

/-- A dollar sign in front makes a key a connective, and a connective
wants an array. -/
theorem ofJson_of_dollar {key : String} (hdollar : key.toList.head? = some '$') {v : Json}
    (hv : ∀ items, v ≠ .array items) : ofJson (.object [(key, v)]) = .error (refusal key v) := by
  have hkey : Clause.isConnectiveKey key = true := decide_eq_true hdollar
  have hclause : clauseOfJson 0 key v = .error (refusal key v) := by
    unfold refusal
    cases v with
    | array items => exact absurd rfl (hv items)
    | _ =>
        rw [clauseOfJson, if_pos hkey]
        · cases Connective.ofSymbol? key <;> rfl
        -- The equation of the reader for values that are no arrays asks for this.
        · exact hv
  have hcheck : checkEntries 0 [(key, v)] = .ok () := rfl
  rw [ofJson, hcheck, except_ok_bind, clausesOfJson, hclause]
  rfl

end Filter

/-! ### Filters with one condition -/

namespace Compiler

variable (compiler : Compiler)

/-- A filter with one condition under a plain key is refused for what is
wrong with the condition, and otherwise it is the condition's fragment. -/
theorem buildJson_condition {key : String} (hne : key ≠ "") (hplain : key.toList.head? ≠ some '$')
    (condition : Condition) (hbare : ∀ w, condition = .equals w → w.IsBare) :
    (compiler.buildJson (some (.object [(key, condition.toJson)]))).outcome
      = report (compiler.layout.propertyDefects key condition)
          (WhereClause.ofFragment (compiler.layout.propertyFragment key condition)) := by
  have hread := (Clause.conditionOfJson_eq_ok_iff key _ condition).mpr ⟨rfl, hbare⟩
  rw [compiler.buildJson_of_ne_null (by simp), Filter.ofJson_singleton hne hplain, hread,
    except_ok_bind, Traced.ofExcept_ok_bind, compiler.build_outcome rfl, compile_property_outcome]
  cases compiler.layout.propertyDefects key condition with
  | nil => rfl
  | cons e es => rfl

section
variable {column : String} (hcolumn : column ∈ compiler.layout.specificColumns)
include hcolumn

/-- The check of a layout leaves no column without a name. -/
theorem column_ne_empty : column ≠ "" := by
  rintro rfl
  have hblank := (((Layout.check_eq_ok_iff _).mp compiler.checked).2 "" hcolumn).1
  cases hblank

/-- Nothing is wrong with the key of a dedicated column, and its quoted
name selects it. So all that is left is the operand. -/
theorem buildJson_column (hplain : column.toList.head? ≠ some '$') (condition : Condition)
    (hbare : ∀ w, condition = .equals w → w.IsBare) :
    (compiler.buildJson (some (.object [(column, condition.toJson)]))).outcome
      = report (condition.shapeDefects ++ condition.literals.flatMap Literal.defects)
          (WhereClause.ofFragment
            ⟨compiler.layout.backend.predicate (Sql.quotedName column) condition.op
                (condition.literals.map (Literal.ofJson compiler.layout.backend)),
              (condition.literals.map (Literal.ofJson compiler.layout.backend)).map
                Literal.param⟩) := by
  have hkey := (Layout.keyDefects_eq_nil_iff compiler.layout column).mpr (.inl hcolumn)
  have hspecific : compiler.layout.isSpecific column = true := by
    simpa [Layout.isSpecific] using hcolumn
  rw [compiler.buildJson_condition (compiler.column_ne_empty hcolumn) hplain condition hbare,
    Layout.propertyDefects, hkey, List.nil_append, Layout.propertyFragment, Layout.selectorText,
    if_pos hspecific, List.map_map]
  rfl

end

/-- Every dedicated column whose name does not start with a dollar sign
can be filtered on. With an operator, a filter that names the column
succeeds exactly for the operands that can be bound for the operator, and
the clause is the operator's predicate over the quoted name. With any
value that can be bound, the clause is the predicate for equality. A name
that starts with a dollar sign is taken for a connective, and both kinds
of filter are refused. -/
theorem dedicated_columns_can_be_filtered {column : String}
    (hcolumn : column ∈ compiler.layout.specificColumns) :
    (column.toList.head? ≠ some '$' →
      (∀ (op : Comparison) (operand : Json) (clause : WhereClause),
        (compiler.buildJson
            (some (.object [(column, .object [(op.symbol, operand)])]))).outcome = .ok clause ↔
          ∃ literals, op.Binds compiler.layout.backend operand literals ∧
            clause = .ofFragment
              ⟨compiler.layout.backend.predicate (Sql.quotedName column) op literals,
                literals.map Literal.param⟩) ∧
      ∀ (v : Json) (literal : Literal),
        (Literal.encode compiler.layout.backend v).outcome = .ok literal →
        (compiler.buildJson (some (.object [(column, v)]))).outcome
          = .ok (.ofFragment
              ⟨compiler.layout.backend.predicate (Sql.quotedName column) .equal [literal],
                [literal.param]⟩)) ∧
    (column.toList.head? = some '$' → ∀ v : Json, (∀ items, v ≠ .array items) →
      (compiler.buildJson (some (.object [(column, v)]))).outcome
        = .error (Filter.refusal column v)) := by
  refine ⟨fun hplain => ⟨?_, ?_⟩, ?_⟩
  · intro op operand clause
    have hbuild := compiler.buildJson_column hcolumn hplain (.compare op operand)
      (by intro w hw; cases hw)
    rw [Condition.toJson] at hbuild
    simp only [hbuild, report_eq_ok_iff, Comparison.binds_iff]
    constructor
    · rintro ⟨hnone, rfl⟩
      exact ⟨_, ⟨hnone, rfl⟩, rfl⟩
    · rintro ⟨_, ⟨hnone, rfl⟩, rfl⟩
      exact ⟨hnone, rfl⟩
  · intro v literal hliteral
    obtain ⟨hv, rfl⟩ := Literal.encode_eq_ok_iff.mp hliteral
    have hbuild := compiler.buildJson_column hcolumn hplain (.equals v)
      (by intro w hw; cases hw; exact Json.isBare_of_encodable hv)
    rw [Condition.toJson] at hbuild
    rw [hbuild, report_eq_ok_iff]
    -- Equality takes a value as it is, so only the value could be at fault.
    have hnone : [v].flatMap Literal.defects = [] := by
      rw [List.flatMap_singleton]
      exact (Literal.defects_eq_nil_iff v).mpr hv
    exact ⟨hnone, rfl⟩
  · intro hdollar v hv
    rw [compiler.buildJson_of_ne_null (by simp), Filter.ofJson_of_dollar hdollar hv]
    rfl

/-- A compiler for columns with a dollar sign in front. One of them has
the name of a connective. -/
def dollarColumns : Compiler where
  layout := { specificColumns := ["$price", "$or"] }
  checked := rfl

/-- A range over a column with an awkward name, and a bare value for it.
Columns with a dollar sign in front are out of reach. -/
theorem dedicated_columns_can_be_filtered_awkward :
    (awkward.buildJson (some (.object [("a') AND \"b", .object [("$between",
          .array [.number (.integer 1), .string "z"])])]))).outcome
        = .ok ⟨"WHERE \"a') AND \"\"b\" BETWEEN ?::DOUBLE AND ?", ["1", "z"]⟩ ∧
    (awkward.buildJson (some (.object [("a') AND \"b", .bool true)]))).outcome
        = .ok ⟨"WHERE TRY_CAST(\"a') AND \"\"b\" AS BOOLEAN) = ?::BOOLEAN", ["true"]⟩ ∧
    (dollarColumns.buildJson (some (.object [("$or", .bool true)]))).outcome
        = .error (.connectiveNotArray .or (.bool true)) := by
  have hawkward := (awkward.dedicated_columns_can_be_filtered List.mem_cons_self).1 (by decide)
  have hdollar := (dollarColumns.dedicated_columns_can_be_filtered
    (List.mem_cons_of_mem "$price" (List.mem_singleton_self "$or"))).2 rfl
  refine ⟨?_, ?_, hdollar (.bool true) (by simp)⟩
  · exact (hawkward.1 .between _ _).mpr ⟨_, ⟨.range _ _, rfl⟩, rfl⟩
  · exact hawkward.2 (.bool true) (.typed .duckdb .boolean "true") rfl

/-- Not every dedicated column can be filtered on. A layout with a column
`$price` is in order, and `5` can be bound for a comparison, but in JSON
the name of the column is taken for a connective. -/
theorem dollar_column_is_out_of_reach :
    "$price" ∈ dollarColumns.layout.specificColumns ∧
    Comparison.Binds dollarColumns.layout.backend .greater (.number (.integer 5))
      [.typed .hana .double "5"] ∧
    (dollarColumns.buildJson
        (some (.object [("$price", .object [("$gt", .number (.integer 5))])]))).outcome
      = .error (.unsupportedConnective "$price") := by
  exact ⟨List.mem_cons_self, ⟨.binary _, rfl⟩, rfl⟩

end Compiler

end FilterSql
