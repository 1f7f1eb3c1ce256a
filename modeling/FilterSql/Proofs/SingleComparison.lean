import FilterSql.Proofs.EntryPoints
import FilterSql.Proofs.Grammar

/-!
# `FilterSql.Proofs.SingleComparison`: one comparison, three ways in

A single comparison can be given by its parts, as a tree with nothing
else in it, or as a JSON value with one entry. The ways differ in what
they look at first: by its parts, the operator comes before the key; in
JSON, the reader looks for a tagged date before it looks for an operator.
All the same they come to the same fragment or the same error, and to the
same events.

The exception is in JSON. An entry `"type": "date"` is the tag of a date,
so it is never looked up among the operators.

* `Compiler.compile_property`: a tree with one condition adds nothing to
  it.
* `Filter.ofJson_comparison`: how one comparison is read from JSON.
-/

set_option autoImplicit false

namespace FilterSql

/-- A last step that gives back what it gets does nothing. -/
theorem Traced.bind_eq_self {ε α : Type} {x : Traced ε α} {f : α → Traced ε α}
    (h : ∀ a, x.outcome = .ok a → f a = pure a) : (x >>= f) = x := by
  rcases x with ⟨events, e | a⟩
  · rfl
  · show Traced.bind _ f = _
    rw [Traced.bind]
    simp only [h a rfl]
    show Traced.mk (events ++ []) _ = _
    rw [List.append_nil]
    rfl

/-! ### As a tree -/

/-- A fragment that stands alone is joined with nothing. -/
theorem Fragment.join_singleton (op : Connective) {f : Fragment} (h : f.sql ≠ "") :
    join op [f] = pure f := by
  have hjoined : joined op [f] = f := by simp [joined, joinedText]
  rw [join_eq_pure op [f] (List.cons_ne_nil f []) (by simpa using h), hjoined]

namespace Compiler

variable (compiler : Compiler)

/-- A condition that is all of a tree is compiled as it is anywhere else:
the tree checks its depth and its clauses in vain, and there is nothing
to join. -/
theorem compile_property (key : String) (condition : Condition) :
    compiler.compile (.all [.property key condition])
      = compiler.layout.property key condition := by
  have hcheck : Layout.checkClauses 0 [Clause.property key condition] = .ok () := rfl
  rw [compile_eq, Layout.filter_all, hcheck, Traced.ofExcept_ok_bind]
  simp only [List.mapM_cons, List.mapM_nil, Layout.clause_property, pure_bind, bind_assoc]
  apply Traced.bind_eq_self
  intro f hf
  -- The fragment is known and is not empty, so that joining it with nothing succeeds.
  rw [Layout.property_outcome, report_eq_ok_iff] at hf
  obtain ⟨hnone, rfl⟩ := hf
  exact Fragment.join_singleton .and (Layout.propertyFragment_sql_ne_empty hnone)

/-- A comparison that is given by its parts is the tree with nothing else
in it, once its operator is read. -/
theorem compileComparison_eq (key symbol : String) (operand : Json) :
    compiler.compileComparison key symbol operand
      = .ofExcept (Comparison.parse symbol) >>= fun op =>
          compiler.compile (.all [.property key (.compare op operand)]) := by
  simp only [compile_property]
  exact compiler.compileComparison_eq_bind key symbol operand

end Compiler

/-! ### As a JSON value -/

/-- One entry is a tagged date if it is the tag itself. -/
theorem Json.Fields.isTaggedDate_singleton (symbol : String) (operand : Json) :
    Json.Fields.isTaggedDate [(symbol, operand)] = true ↔
      symbol = "type" ∧ operand = .string "date" := by
  rw [isTaggedDate_iff, get?, List.lookup_cons]
  by_cases hsymbol : symbol = "type"
  · simp [hsymbol]
  · have hne : ("type" == symbol) = false := by simpa using Ne.symm hsymbol
    simp [hne, hsymbol]

namespace Filter

variable {key : String} (symbol : String) (operand : Json)

/-- An entry with a plain key is read as its condition, and the value
that holds it as the tree with nothing else in it. -/
theorem ofJson_singleton (hne : key ≠ "") (hplain : key.toList.head? ≠ some '$') (v : Json) :
    ofJson (.object [(key, v)])
      = Clause.conditionOfJson key v >>= fun condition =>
          .ok (.all [.property key condition]) := by
  have hkey : Clause.isConnectiveKey key = false := decide_eq_false hplain
  have hcheck : checkEntries 0 [(key, v)] = .ok () := rfl
  rw [ofJson, hcheck, except_ok_bind, clausesOfJson, clauseOfJson_of_plain hkey,
    Clause.propertyOfJson, if_neg hne]
  cases Clause.conditionOfJson key v with
  | error e => rfl
  | ok condition => rfl

/-- An operator with its operand is read by the operator alone. -/
theorem ofJson_comparison (hne : key ≠ "") (hplain : key.toList.head? ≠ some '$')
    (htag : ¬ (symbol = "type" ∧ operand = .string "date")) :
    ofJson (.object [(key, .object [(symbol, operand)])])
      = Comparison.parse symbol >>= fun op =>
          .ok (.all [.property key (.compare op operand)]) := by
  rw [← Json.Fields.isTaggedDate_singleton] at htag
  rw [ofJson_singleton hne hplain, Clause.conditionOfJson, if_neg htag]
  cases Comparison.parse symbol with
  | error e => rfl
  | ok op => rfl

/-- The tag of a date is read as equality with a date that says no more. -/
theorem ofJson_tag (hne : key ≠ "") (hplain : key.toList.head? ≠ some '$') :
    ofJson (.object [(key, .object [("type", .string "date")])])
      = .ok (.all [.property key (.equals (.object [("type", .string "date")]))]) :=
  ofJson_singleton hne hplain _

end Filter

namespace Compiler

variable (compiler : Compiler)

/-- A date that says no more than that it is one cannot be bound. If its
key is in order, the value is at fault, and never an operator. -/
theorem compile_tag_outcome (key : String) :
    (compiler.compile
        (.all [.property key (.equals (.object [("type", .string "date")]))])).outcome
      = .error (if compiler.layout.isSpecific key || Layout.isPath key then
          .unsupportedValue (.object [("type", .string "date")])
        else .invalidPropertyKey key) := by
  rw [compile_property_outcome]
  show report (compiler.layout.keyDefects key ++
    [.unsupportedValue (.object [("type", .string "date")])]) _ = _
  unfold Layout.keyDefects
  split
  · rfl
  · rfl

/-- The three ways to a comparison agree. Given by its parts, it fails
with the error of its operator, or it is compiled as the tree with
nothing else in it. Given as JSON under a key that is a property, it is
read and compiled to the same, unless operator and operand are the tag of
a date. The tag is read as a date, and then what comes out differs. -/
theorem ways_to_compare_agree (key symbol : String) (operand : Json) :
    (∀ e, Comparison.parse symbol = .error e →
      compiler.compileComparison key symbol operand = .fail e) ∧
    (∀ op, Comparison.parse symbol = .ok op →
      compiler.compileComparison key symbol operand
        = compiler.compile (.all [.property key (.compare op operand)])) ∧
    (key ≠ "" → key.toList.head? ≠ some '$' →
      (¬ (symbol = "type" ∧ operand = .string "date") →
        compiler.compileComparison key symbol operand
          = .ofExcept (Filter.ofJson (.object [(key, .object [(symbol, operand)])]))
              >>= compiler.compile) ∧
      (symbol = "type" ∧ operand = .string "date" →
        Filter.ofJson (.object [(key, .object [(symbol, operand)])])
            = .ok (.all [.property key (.equals (.object [(symbol, operand)]))]) ∧
          (compiler.compileComparison key symbol operand).outcome
            ≠ (Traced.ofExcept (Filter.ofJson (.object [(key, .object [(symbol, operand)])]))
                >>= compiler.compile).outcome)) := by
  rw [compileComparison_eq]
  refine ⟨?_, ?_, ?_⟩
  · intro e he
    rw [he, Traced.ofExcept_error_bind]
  · intro op hop
    rw [hop, Traced.ofExcept_ok_bind]
  · intro hne hplain
    constructor
    · intro htag
      rw [Filter.ofJson_comparison symbol operand hne hplain htag]
      cases Comparison.parse symbol with
      | error e => rfl
      | ok op => rfl
    · rintro ⟨rfl, rfl⟩
      have hparse : Comparison.parse "type" = .error (.unknownOperator "type") := rfl
      rw [Filter.ofJson_tag hne hplain, Traced.ofExcept_ok_bind, compile_tag_outcome, hparse]
      refine ⟨rfl, ?_⟩
      intro herror
      have herror := Except.error.inj herror
      split at herror
      · cases herror
      · cases herror

/-- A search in a column with an awkward name is the same by its parts and
as JSON. A range without bounds is the same by its parts and as a tree,
a connective is no operator, and the tag of a date is a date. -/
theorem ways_to_compare_agree_awkward :
    awkward.compileComparison "a') AND \"b" "$contains" (.string "?")
        = (.ofExcept (Filter.ofJson
            (.object [("a') AND \"b", .object [("$contains", .string "?")])]))
          >>= awkward.compile) ∧
    (awkward.compileComparison "a') AND \"b" "$contains" (.string "?")).outcome
        = .ok ⟨"contains(\"a') AND \"\"b\", ?)", ["?"]⟩ ∧
    awkward.compileComparison "k" "$between" (.array [.null])
        = awkward.compile (.all [.property "k" (.compare .between (.array [.null]))]) ∧
    awkward.compileComparison "k" "$and" (.array []) = .fail (.unexpectedConnective .and) ∧
    Filter.ofJson (.object [("k", .object [("type", .string "date")])])
      = .ok (.all [.property "k" (.equals (.object [("type", .string "date")]))]) := by
  have hsearch := awkward.ways_to_compare_agree "a') AND \"b" "$contains" (.string "?")
  have hrange := awkward.ways_to_compare_agree "k" "$between" (.array [.null])
  have hconnective := awkward.ways_to_compare_agree "k" "$and" (.array [])
  have htag := awkward.ways_to_compare_agree "k" "type" (.string "date")
  refine ⟨(hsearch.2.2 (by decide) (by decide)).1 ?_, rfl, hrange.2.1 .between rfl,
    hconnective.1 _ rfl, ((htag.2.2 (by decide) (by decide)).2 ⟨rfl, rfl⟩).1⟩
  rintro ⟨hsymbol, -⟩
  exact absurd hsymbol (by decide)

end Compiler

end FilterSql
