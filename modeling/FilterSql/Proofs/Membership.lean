import FilterSql.Proofs.SingleComparison
import Mathlib.Data.List.FinRange

/-!
# `FilterSql.Proofs.Membership`: a set has no order

The operators `$in` and `$nin` compare with a set, and the set is written
as a list. The order of the list shows in the order of placeholders and
parameters and nowhere else. Whether the test can be compiled does not
depend on it, nor does the column side, which is converted to a type if
all literals have that type. That is decided by comparing all literals
with the first one, and any other would do
(`Literal.sharedCast_eq_some_iff`).

An order is a permutation of positions: `items ∘ σ` has at position `i`
what `items` has at `σ i`. The literals are permuted by the same `σ`.
-/

set_option autoImplicit false

namespace FilterSql

open Sql (Backend Cast)

/-! ### The type that literals share -/

namespace Literal

/-- A type is shared if every literal has it. -/
theorem sharedCast_eq_some_iff {ls : List Literal} {c : Cast} :
    sharedCast ls = some c ↔ ls ≠ [] ∧ ∀ l ∈ ls, l.cast = some c := by
  cases ls with
  | nil => simp [sharedCast]
  | cons l ls =>
      cases hcast : l.cast with
      | none => simp [sharedCast, hcast]
      | some d =>
          simp only [sharedCast, hcast, Option.ite_none_right_eq_some, List.all_eq_true,
            decide_eq_true_eq, Option.some.injEq, ne_eq, reduceCtorEq, not_false_eq_true, true_and,
            List.forall_mem_cons]
          constructor
          · rintro ⟨hall, rfl⟩
            exact ⟨rfl, hall⟩
          · rintro ⟨rfl, hall⟩
            exact ⟨hall, rfl⟩

/-- The first literal is not special. -/
theorem sharedCast_perm {ls ls' : List Literal} (h : ls.Perm ls') :
    sharedCast ls = sharedCast ls' := by
  have hnil : ls = [] ↔ ls' = [] := by
    rw [← List.length_eq_zero_iff, h.length_eq, List.length_eq_zero_iff]
  ext c
  simp only [sharedCast_eq_some_iff, ne_eq, hnil, h.mem_iff]

end Literal

namespace Sql.Backend

/-- A column is converted to a type if that is the type of the literals.
The text of the column alone is never that of a conversion. -/
theorem castSelector_duckdb_eq_iff (column : String) (cast : Option Cast) (c : Cast) :
    duckdb.castSelector column cast = "TRY_CAST(" ++ column ++ " AS " ++ c.sqlType ++ ")" ↔
      cast = some c := by
  constructor
  · intro h
    have hlength := congrArg String.length h
    cases cast with
    | none =>
        simp only [castSelector, String.length_append] at hlength
        have hopen : "TRY_CAST(".length = 9 := rfl
        omega
    | some d =>
        simp only [castSelector, String.length_append] at hlength
        -- No two types have names of the same length.
        have htype : d.sqlType.length = c.sqlType.length := by omega
        revert htype
        cases d <;> cases c <;> decide
  · rintro rfl
    rfl

end Sql.Backend

/-! ### Membership tests -/

/-- A membership test with these literals, in this order. -/
def Fragment.membership (selector : String) (op : Comparison) {n : Nat}
    (literals : Fin n → Literal) : Fragment where
  sql := selector ++ " " ++ op.keyword ++ " (" ++
    Text.joined ", " (List.ofFn (Literal.placeholder ∘ literals)) ++ ")"
  params := List.ofFn (Literal.param ∘ literals)

namespace Compiler

variable (compiler : Compiler) (key : String) {op : Comparison} {n : Nat}

/-- The literals for items with nothing wrong. -/
def literalsOf (items : Fin n → Json) : Fin n → Literal :=
  Literal.ofJson compiler.layout.backend ∘ items

/-- The column side of a comparison with these literals. -/
def convertedSelector (literals : Fin n → Literal) : String :=
  compiler.layout.backend.castSelector (compiler.layout.selectorText key)
    (Literal.sharedCast (List.ofFn literals))

/-- A membership test meets the defects of its key, of its list and of
its items, and is written with the literals in the order of the items. -/
theorem membership_outcome (hop : op = .oneOf ∨ op = .noneOf) (items : Fin n → Json) :
    (compiler.compileComparison key op.symbol (.array (List.ofFn items))).outcome
      = report (compiler.layout.propertyDefects key (.compare op (.array (List.ofFn items))))
          (.membership (compiler.convertedSelector key (compiler.literalsOf items)) op
            (compiler.literalsOf items)) := by
  have hliterals : (List.ofFn items).map (Literal.ofJson compiler.layout.backend)
      = List.ofFn (compiler.literalsOf items) := List.map_ofFn
  have hplaceholders : (List.ofFn (compiler.literalsOf items)).map Literal.placeholder
      = List.ofFn (Literal.placeholder ∘ compiler.literalsOf items) := List.map_ofFn
  have hparams : (List.ofFn items).map Literal.text
      = List.ofFn (Literal.param ∘ compiler.literalsOf items) := List.map_ofFn
  have hfragment : compiler.layout.propertyFragment key (.compare op (.array (List.ofFn items)))
      = .membership (compiler.convertedSelector key (compiler.literalsOf items)) op
          (compiler.literalsOf items) := by
    rw [Fragment.membership, convertedSelector, ← hplaceholders, ← hliterals, ← hparams]
    rcases hop with rfl | rfl <;> rfl
  rw [compileComparison_outcome, (Comparison.parse_eq_ok_iff _ _).mpr rfl, except_ok_bind,
    compile_property_outcome, hfragment]

/-- Which membership tests can be compiled. -/
theorem membership_defects_eq_nil_iff (hop : op = .oneOf ∨ op = .noneOf) (items : Fin n → Json) :
    compiler.layout.propertyDefects key (.compare op (.array (List.ofFn items))) = [] ↔
      compiler.layout.keyDefects key = [] ∧ 0 < n ∧ ∀ i, Literal.defects (items i) = [] := by
  have hshape : op.shapeDefects (.array (List.ofFn items)) = [] ↔ 0 < n := by
    cases n with
    | zero => rcases hop with rfl | rfl <;> simp [Comparison.shapeDefects, Comparison.shape]
    | succ n =>
        rw [List.ofFn_succ]
        rcases hop with rfl | rfl <;> simp [Comparison.shapeDefects, Comparison.shape]
  have hitems : op.literals (.array (List.ofFn items)) = List.ofFn items := by
    rcases hop with rfl | rfl <;> rfl
  show compiler.layout.keyDefects key ++ (op.shapeDefects (.array (List.ofFn items)) ++
    (op.literals (.array (List.ofFn items))).flatMap Literal.defects) = [] ↔ _
  rw [List.append_eq_nil_iff, List.append_eq_nil_iff, hshape, hitems, List.flatMap_eq_nil_iff,
    List.forall_mem_ofFn_iff]

/-- The order of the items does not matter for whether they can be
bound. -/
theorem membership_defects_perm (hop : op = .oneOf ∨ op = .noneOf) (items : Fin n → Json)
    (σ : Equiv.Perm (Fin n)) :
    compiler.layout.propertyDefects key (.compare op (.array (List.ofFn (items ∘ σ)))) = [] ↔
      compiler.layout.propertyDefects key (.compare op (.array (List.ofFn items))) = [] := by
  rw [membership_defects_eq_nil_iff compiler key hop, membership_defects_eq_nil_iff compiler key hop]
  exact and_congr_right fun _ => and_congr_right fun _ =>
    (σ.surjective.forall (p := fun i => Literal.defects (items i) = [])).symm

/-- Nor does it matter for the column side. -/
theorem convertedSelector_perm (literals : Fin n → Literal) (σ : Equiv.Perm (Fin n)) :
    compiler.convertedSelector key (literals ∘ σ) = compiler.convertedSelector key literals := by
  unfold convertedSelector
  rw [Literal.sharedCast_perm (Equiv.Perm.ofFn_comp_perm σ literals)]

/-- The column side for DuckDB. -/
theorem convertedSelector_eq_iff (hbackend : compiler.layout.backend = .duckdb) (hn : 0 < n)
    (literals : Fin n → Literal) (c : Cast) :
    compiler.convertedSelector key literals
        = "TRY_CAST(" ++ compiler.layout.selectorText key ++ " AS " ++ c.sqlType ++ ")" ↔
      ∀ i, (literals i).cast = some c := by
  have hne : List.ofFn literals ≠ [] := by
    rw [ne_eq, List.ofFn_eq_nil_iff]
    omega
  unfold convertedSelector
  rw [hbackend, Sql.Backend.castSelector_duckdb_eq_iff, Literal.sharedCast_eq_some_iff,
    List.forall_mem_ofFn_iff]
  exact and_iff_right hne

/-- A column is taken as it is if its backend converts nothing, or if the
literals have no type in common. -/
theorem convertedSelector_of_unshared (literals : Fin n → Literal)
    (h : compiler.layout.backend = .hana ∨ ¬ ∃ c, ∀ i, (literals i).cast = some c) :
    compiler.convertedSelector key literals = compiler.layout.selectorText key := by
  unfold convertedSelector
  rcases h with hbackend | hunshared
  · rw [hbackend]
    rfl
  · cases hcast : Literal.sharedCast (List.ofFn literals) with
    | none => cases compiler.layout.backend <;> rfl
    | some c =>
        rw [Literal.sharedCast_eq_some_iff, List.forall_mem_ofFn_iff] at hcast
        exact absurd ⟨c, hcast.2⟩ hunshared

/-- Literals of one type have one placeholder, so their order does not
show in the text. -/
theorem membership_sql_of_cast_eq {items : Fin n → Json} {cast : Option Cast}
    (h : ∀ i, (compiler.literalsOf items i).cast = cast) (selector : String)
    (σ : Equiv.Perm (Fin n)) :
    (Fragment.membership selector op (compiler.literalsOf items ∘ σ)).sql
      = (Fragment.membership selector op (compiler.literalsOf items)).sql := by
  have hplaceholder : ∀ i, (compiler.literalsOf items i).placeholder
      = Literal.placeholderFor compiler.layout.backend cast := fun i => h i ▸ rfl
  simp only [Fragment.membership, Function.comp_def, hplaceholder]

/-- The items of a membership test may stand in any order. Compiled by its
parts or as a tree, the test can be compiled in all orders or in none.
Its column side is the same in all of them, and placeholders and
parameters go with the items. DuckDB converts the column to a type if all
items have that type, and to nothing else. If the items have one type, or
none of them has any, the order does not show in the text. -/
theorem set_order_is_free (hop : op = .oneOf ∨ op = .noneOf) (items : Fin n → Json)
    (σ : Equiv.Perm (Fin n)) :
    (∀ operand, compiler.compile (.all [.property key (.compare op operand)])
      = compiler.compileComparison key op.symbol operand) ∧
    ((∃ f, (compiler.compileComparison key op.symbol (.array (List.ofFn items))).outcome = .ok f) ↔
      ∃ f, (compiler.compileComparison key op.symbol
        (.array (List.ofFn (items ∘ σ)))).outcome = .ok f) ∧
    ∀ f, (compiler.compileComparison key op.symbol (.array (List.ofFn items))).outcome = .ok f →
      ∃ (column selector : String) (literals : Fin n → Literal),
        compiler.layout.selector key = .ok column ∧
        (∀ i, (Literal.encode compiler.layout.backend (items i)).outcome = .ok (literals i)) ∧
        f = .membership selector op literals ∧
        (compiler.compileComparison key op.symbol (.array (List.ofFn (items ∘ σ)))).outcome
          = .ok (.membership selector op (literals ∘ σ)) ∧
        (compiler.layout.backend = .duckdb →
          ∀ c, selector = "TRY_CAST(" ++ column ++ " AS " ++ c.sqlType ++ ")" ↔
            ∀ i, (literals i).cast = some c) ∧
        (compiler.layout.backend = .hana ∨ (¬ ∃ c, ∀ i, (literals i).cast = some c) →
          selector = column) ∧
        ((∃ cast, ∀ i, (literals i).cast = cast) →
          (Fragment.membership selector op (literals ∘ σ)).sql = f.sql) := by
  have hperm := compiler.membership_defects_perm key hop items σ
  refine ⟨?_, ?_, ?_⟩
  · intro operand
    rw [compileComparison_eq, (Comparison.parse_eq_ok_iff _ _).mpr rfl, Traced.ofExcept_ok_bind]
  · rw [membership_outcome compiler key hop, membership_outcome compiler key hop,
      exists_report_eq_ok_iff, exists_report_eq_ok_iff, hperm]
  · intro f hf
    rw [membership_outcome compiler key hop, report_eq_ok_iff] at hf
    obtain ⟨hnone, rfl⟩ := hf
    obtain ⟨hkey, hn, hitems⟩ := (compiler.membership_defects_eq_nil_iff key hop items).mp hnone
    refine ⟨compiler.layout.selectorText key,
      compiler.convertedSelector key (compiler.literalsOf items), compiler.literalsOf items,
      ?_, fun i => ?_, rfl, ?_, fun hbackend => compiler.convertedSelector_eq_iff key hbackend hn _,
      compiler.convertedSelector_of_unshared key _, ?_⟩
    · rw [Layout.selector_eq, hkey, report_nil]
    · rw [Literal.encode_outcome, hitems i, report_nil]
      rfl
    · rw [membership_outcome compiler key hop, hperm.mpr hnone, report_nil]
      -- The literals of the permuted items are the permuted literals.
      show Except.ok (Fragment.membership (compiler.convertedSelector key
        (compiler.literalsOf items ∘ σ)) op _) = _
      rw [convertedSelector_perm]
      rfl
    · rintro ⟨cast, hcast⟩
      exact compiler.membership_sql_of_cast_eq hcast _ σ

/-- A number, a text and a truth value. -/
def mixedItems (i : Fin 3) : Json :=
  match i with
  | 0 => .number (.integer 3)
  | 1 => .string "a"
  | 2 => .bool true

/-- A text among other literals keeps the column from being converted,
wherever it stands. -/
theorem set_order_is_free_mixed :
    (awkward.compileComparison "k" "$in" (.array (List.ofFn mixedItems))).outcome
      = .ok ⟨"json_extract_string(\"m\"\" OR (\", '$.k') IN (?::DOUBLE, ?, ?::BOOLEAN)",
          ["3", "a", "true"]⟩ ∧
    (∃ f, (awkward.compileComparison "k" "$in"
      (.array (List.ofFn (mixedItems ∘ Equiv.swap 0 1)))).outcome = .ok f) ∧
    ∃ (selector : String) (literals : Fin 3 → Literal),
      ["3", "a", "true"] = (Fragment.membership selector .oneOf literals).params ∧
      (awkward.compileComparison "k" "$in"
        (.array (List.ofFn (mixedItems ∘ Equiv.swap 0 1)))).outcome
          = .ok (.membership selector .oneOf (literals ∘ Equiv.swap 0 1)) := by
  have hcompile : (awkward.compileComparison "k" "$in" (.array (List.ofFn mixedItems))).outcome
      = .ok ⟨"json_extract_string(\"m\"\" OR (\", '$.k') IN (?::DOUBLE, ?, ?::BOOLEAN)",
          ["3", "a", "true"]⟩ := rfl
  obtain ⟨-, hiff, hsame⟩ := awkward.set_order_is_free "k" (.inl rfl) mixedItems (Equiv.swap 0 1)
  obtain ⟨column, selector, literals, -, -, hf, hswapped, -⟩ := hsame _ hcompile
  exact ⟨hcompile, hiff.mp ⟨_, hcompile⟩, selector, literals, congrArg Fragment.params hf, hswapped⟩

end Compiler

end FilterSql
