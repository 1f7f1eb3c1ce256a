import FilterSql.Proofs.BooleanStructure

/-!
# `FilterSql.Proofs.Backends`: backends differ in their leaves only

Backends take a property out of the JSON column in different ways,
write placeholders in different forms, convert columns or do not, and
search text with the arguments in different order. All of this happens
inside of one condition. What can be wrong with a filter, which
parameters it has and how its conditions are joined is the same for
all of them.

The text of a filter is a row of pieces: parentheses, connectives, and
conditions where the text of a leaf goes in. The row depends on the
filter alone, so two backends fill in the same one.

* `Filter.pieces`: the row of a filter.
* `Piece.spelled_joined`: spelling a row with these leaf texts is
  joining their texts.
* `Compiler.SameJoins`: two fragments that fill in the same row, leaf by
  leaf with the same parameters.
* `Filter.defects_congr`: what is wrong with a filter does not hang on
  the backend.
-/

set_option autoImplicit false

namespace FilterSql

open Sql (placeholders)

/-! ### Rows of pieces -/

/-- A piece of the text of a filter. -/
inductive Piece where
  | opening
  | closing
  | word (op : Connective)
  /-- Here stands the text of a condition. -/
  | leaf (key : String) (condition : Condition)

namespace Piece

/-- The condition whose text stands here. -/
def condition? : Piece → Option (String × Condition)
  | leaf key condition => some (key, condition)
  | _ => none

/-- The text of a piece, if leaves have these. -/
def text (leafText : String → Condition → String) : Piece → String
  | opening => "("
  | closing => ")"
  | word op => " " ++ op.keyword ++ " "
  | leaf key condition => leafText key condition

/-- The text of a row, if leaves have these. -/
def spelled (leafText : String → Condition → String) : List Piece → String
  | [] => ""
  | piece :: row => piece.text leafText ++ spelled leafText row

/-- A row in parentheses. -/
def parenthesized (row : List Piece) : List Piece :=
  opening :: row ++ [closing]

/-- Rows with a connective between them; one row stays as it is. -/
def joined (op : Connective) : List (List Piece) → List Piece
  | [row] => row
  | rows => List.intercalate [word op] (rows.map parenthesized)

theorem spelled_append (leafText : String → Condition → String) (row row' : List Piece) :
    spelled leafText (row ++ row') = spelled leafText row ++ spelled leafText row' := by
  induction row with
  | nil => simp [spelled]
  | cons piece row ih => simp only [List.cons_append, spelled, ih, String.append_assoc]

/-- Parentheses around a row are parentheses around its text. -/
theorem spelled_parenthesized (leafText : String → Condition → String) (row : List Piece) :
    spelled leafText (parenthesized row)
      = Fragment.parenthesized (spelled leafText row) := by
  rw [parenthesized, List.cons_append, spelled, spelled_append, Fragment.parenthesized,
    String.append_assoc]
  simp [spelled, text]

/-- Rows with a connective between them are spelled one by one. -/
theorem spelled_intercalate (leafText : String → Condition → String) (op : Connective)
    (rows : List (List Piece)) :
    spelled leafText (List.intercalate [word op] rows)
      = Text.joined (" " ++ op.keyword ++ " ") (rows.map (spelled leafText)) := by
  induction rows with
  | nil => rfl
  | cons row rows ih =>
      cases rows with
      | nil => simp [Text.joined]
      | cons row' rows =>
          rw [List.intercalate_cons_cons, spelled_append, spelled_append, ih]
          simp [Text.joined, spelled, text]

/-- The text of joined rows is the joined text. -/
theorem spelled_joined (leafText : String → Condition → String) (op : Connective)
    (rows : List (List Piece)) :
    spelled leafText (joined op rows)
      = Fragment.joinedText op (rows.map (spelled leafText)) := by
  -- Rows and texts both leave a list of one as it is.
  match rows with
  | [row] => rfl
  | [] => rfl
  | row :: row' :: rows =>
      show spelled leafText
        (List.intercalate [word op] ((row :: row' :: rows).map parenthesized)) = _
      rw [spelled_intercalate, List.map_map]
      simp [Fragment.joinedText, Function.comp_def, spelled_parenthesized]

/-- Parentheses add no condition. -/
theorem conditions_parenthesized (row : List Piece) :
    (parenthesized row).filterMap condition? = row.filterMap condition? := by
  rw [parenthesized, List.cons_append, List.filterMap_cons_none rfl, List.filterMap_append,
    List.filterMap_cons_none rfl, List.filterMap_nil, List.append_nil]

/-- Nor do the words between rows. -/
theorem conditions_intercalate (op : Connective) (rows : List (List Piece)) :
    (List.intercalate [word op] rows).filterMap condition?
      = (rows.map (List.filterMap condition?)).flatten := by
  induction rows with
  | nil => rfl
  | cons row rows ih =>
      cases rows with
      | nil => simp
      | cons row' rows =>
          rw [List.intercalate_cons_cons, List.filterMap_append, List.filterMap_append, ih]
          simp [condition?]

/-- Parentheses and connectives bring in no condition. -/
theorem conditions_joined (op : Connective) (rows : List (List Piece)) :
    (joined op rows).filterMap condition?
      = (rows.map (List.filterMap condition?)).flatten := by
  match rows with
  | [row] => simp [joined]
  | [] => rfl
  | row :: row' :: rows =>
      show (List.intercalate [word op] ((row :: row' :: rows).map parenthesized)).filterMap
        condition? = _
      rw [conditions_intercalate, List.map_map]
      simp [Function.comp_def, conditions_parenthesized]

end Piece

namespace Filter

/-- The text of a filter as a row of pieces. -/
def pieces (t : Filter) : List Piece :=
  t.interpret (.joining (fun key condition => [.leaf key condition]) Piece.joined)

/-- The leaves of a row are the conditions of the filter in order. -/
theorem conditions_pieces (t : Filter) (hfull : t.isFull = true) :
    t.pieces.filterMap Piece.condition? = t.properties := by
  refine Filter.interpret_rel
    (R := fun (row : List Piece) ps => row.filterMap Piece.condition? = ps) ?_ t ?_ hfull
  · intro op rows pss _ h
    rw [Piece.conditions_joined, map_eq_map_of_forall₂ (g := id) h, List.map_id]
  · intro p _
    rfl

end Filter

/-! ### What does not hang on the backend -/

section
variable {layout layout' : Layout}

/-- Keys are looked up among the dedicated columns, whatever the
backend. -/
theorem Layout.propertyDefects_congr (h : layout.specificColumns = layout'.specificColumns)
    (key : String) (condition : Condition) :
    layout.propertyDefects key condition = layout'.propertyDefects key condition := by
  unfold propertyDefects keyDefects isSpecific
  rw [h]

/-- The same is wrong with a filter, whatever the backend. -/
theorem Filter.defects_congr (h : layout.specificColumns = layout'.specificColumns)
    (t : Filter) (depth : Nat) : t.defects layout depth = t.defects layout' depth := by
  have hdefects : Interpretation.defects layout = Interpretation.defects layout' := by
    simp only [Interpretation.defects, Layout.propertyDefects_congr h]
  rw [Filter.defects, Filter.defects, hdefects]

end

namespace Compiler

/-- Two compilers that differ in their backend at most. -/
def SameColumns (compiler compiler' : Compiler) : Prop :=
  compiler'.layout = { compiler.layout with backend := compiler'.layout.backend }

/-- A condition that two compilers compile, with the same parameters and
as many placeholders. -/
structure SameLeaf (compiler compiler' : Compiler) (key : String) (condition : Condition) :
    Prop where
  compiled : (compiler.compile (.all [.property key condition])).outcome
    = .ok (compiler.alone key condition)
  compiled' : (compiler'.compile (.all [.property key condition])).outcome
    = .ok (compiler'.alone key condition)
  params : (compiler.alone key condition).params = (compiler'.alone key condition).params
  count : placeholders (compiler.alone key condition).sql
    = placeholders (compiler'.alone key condition).sql

/-- Two fragments with the same parameters that are the row of one
filter, each with the leaves of its own compiler. -/
structure SameJoins (compiler compiler' : Compiler) (t : Filter) (f f' : Fragment) : Prop where
  params : f.params = f'.params
  text : f.sql = Piece.spelled (fun key c => (compiler.alone key c).sql) t.pieces
  text' : f'.sql = Piece.spelled (fun key c => (compiler'.alone key c).sql) t.pieces
  /-- The leaves of the row are the conditions of the filter. -/
  conditions : t.pieces.filterMap Piece.condition? = t.properties
  leaves : ∀ p ∈ t.properties, SameLeaf compiler compiler' p.1 p.2

/-- Two compilers fail with the same error, or give the same joins. -/
inductive CompilesAlike (compiler compiler' : Compiler) (t : Filter) :
    Except Error Fragment → Except Error Fragment → Prop where
  | error (e : Error) : CompilesAlike compiler compiler' t (.error e) (.error e)
  | ok {f f' : Fragment} (joins : SameJoins compiler compiler' t f f') :
    CompilesAlike compiler compiler' t (.ok f) (.ok f')

variable {compiler compiler' : Compiler}

/-- A compiled filter is its row, with the leaves as they are compiled
alone. -/
theorem spelled_pieces {t : Filter} {fragment : Fragment}
    (h : (compiler.compile t).outcome = .ok fragment) :
    fragment.sql = Piece.spelled (fun key c => (compiler.alone key c).sql) t.pieces := by
  obtain ⟨hfull, hdefects, rfl⟩ := compiler.rendered_of_compile h
  refine Filter.interpret_rel
    (R := fun (f : Fragment) row =>
      f.sql = Piece.spelled (fun key c => (compiler.alone key c).sql) row) ?_ t ?_ hfull
  · intro op fs rows _ hrows
    rw [Piece.spelled_joined, ← map_eq_map_of_forall₂ hrows]
    rfl
  · intro p hp
    have halone := (compiler.compile_alone (hdefects p hp)).2
    simp [Piece.spelled, Piece.text, halone]

/-- Compilers for the same columns agree on which of them are dedicated. -/
theorem SameColumns.specificColumns (h : compiler.SameColumns compiler') :
    compiler.layout.specificColumns = compiler'.layout.specificColumns := by
  rw [h]

/-- A condition without defects is compiled by both, with a placeholder
for each of the same parameters. -/
theorem SameColumns.sameLeaf (h : compiler.SameColumns compiler') {key : String}
    {condition : Condition} (hnone : compiler.layout.propertyDefects key condition = []) :
    SameLeaf compiler compiler' key condition := by
  have hnone' : compiler'.layout.propertyDefects key condition = [] := by
    rw [← Layout.propertyDefects_congr h.specificColumns]
    exact hnone
  obtain ⟨hcompiled, halone⟩ := compiler.compile_alone hnone
  obtain ⟨hcompiled', halone'⟩ := compiler'.compile_alone hnone'
  refine ⟨hcompiled, hcompiled', ?_, ?_⟩
  · rw [halone, halone']
    rfl
  · rw [halone, halone', compiler.placeholders_propertyFragment hnone,
      compiler'.placeholders_propertyFragment hnone']
    rfl

/-- The two phases of compiling agree: what is wrong does not hang on
the backend, and what is rendered are the same joins. -/
theorem SameColumns.compilesAlike (h : compiler.SameColumns compiler') (t : Filter) :
    CompilesAlike compiler compiler' t (compiler.compile t).outcome
      (compiler'.compile t).outcome := by
  have hdefects := Filter.defects_congr h.specificColumns t 0
  have houtcome := compiler.compile_outcome t
  have houtcome' : (compiler'.compile t).outcome
      = report (t.defects compiler.layout 0) (t.rendered compiler'.layout) := by
    rw [hdefects]
    exact compiler'.compile_outcome t
  -- The first phase is the same for both and decides between the two cases.
  cases hes : t.defects compiler.layout 0 with
  | cons e es =>
      rw [houtcome, houtcome', hes]
      exact .error e
  | nil =>
      rw [hes, report_nil] at houtcome houtcome'
      obtain ⟨hfull, hprops, -⟩ := compiler.rendered_of_compile houtcome
      rw [houtcome, houtcome']
      refine .ok ⟨?_, spelled_pieces houtcome, spelled_pieces houtcome',
        t.conditions_pieces hfull, fun p hp => h.sameLeaf (hprops p hp)⟩
      -- Both are the texts of the literals in order.
      rw [(compiler.follows_compile houtcome).params, (compiler'.follows_compile houtcome').params,
        Layout.leaves_params, Layout.leaves_params]

/-- Two compilers fail with the same error, build nothing, or build the
same joins of a filter that comes from the given source. -/
inductive BuildsAlike (compiler compiler' : Compiler) (source : Filter → Prop) :
    Except Error WhereClause → Except Error WhereClause → Prop where
  | error (e : Error) : BuildsAlike compiler compiler' source (.error e) (.error e)
  | empty : BuildsAlike compiler compiler' source (.ok .empty) (.ok .empty)
  | clause {t : Filter} {f f' : Fragment} (origin : source t)
    (joins : SameJoins compiler compiler' t f f') :
    BuildsAlike compiler compiler' source (.ok (.ofFragment f)) (.ok (.ofFragment f'))

/-- Building is compiling with a word in front, for both. -/
theorem SameColumns.buildsAlike (h : compiler.SameColumns compiler') (filter : Option Filter)
    {source : Filter → Prop} (hsource : ∀ t, filter = some t → source t) :
    BuildsAlike compiler compiler' source (compiler.build filter).outcome
      (compiler'.build filter).outcome := by
  cases filter with
  | none => exact .empty
  | some t =>
      cases hempty : t.isEmpty with
      | true =>
          rw [build, build, if_pos hempty, if_pos hempty]
          exact .empty
      | false =>
          have hcompiles := h.compilesAlike t
          rw [compiler.build_outcome hempty, compiler'.build_outcome hempty]
          generalize (compiler.compile t).outcome = x, (compiler'.compile t).outcome = y
            at hcompiles ⊢
          cases hcompiles with
          | error e => exact .error e
          | ok joins => exact .clause (hsource t rfl) joins

/-- Backends differ in their leaves only. Whatever is compiled or built
for the same columns fails with the same error for every backend or
for none, and otherwise has the same parameters and is the same row of
parentheses and connectives, with the same conditions in the same
places. -/
theorem backends_agree (compiler compiler' : Compiler) (h : compiler.SameColumns compiler') :
    (∀ t, CompilesAlike compiler compiler' t (compiler.compile t).outcome
      (compiler'.compile t).outcome) ∧
    (∀ filter, BuildsAlike compiler compiler' (fun t => filter = some t)
      (compiler.build filter).outcome (compiler'.build filter).outcome) ∧
    (∀ v, BuildsAlike compiler compiler' (fun t => ∃ w, v = some w ∧ Filter.ofJson w = .ok t)
      (compiler.buildJson v).outcome (compiler'.buildJson v).outcome) ∧
    (∀ text, BuildsAlike compiler compiler' (fun t => Filter.ofText text = .ok (some t))
      (compiler.buildText text).outcome (compiler'.buildText text).outcome) ∧
    ∀ key symbol operand,
      (∃ e, (compiler.compileComparison key symbol operand).outcome = .error e ∧
        (compiler'.compileComparison key symbol operand).outcome = .error e) ∨
      ∃ op f f', Comparison.parse symbol = .ok op ∧
        (compiler.compileComparison key symbol operand).outcome = .ok f ∧
        (compiler'.compileComparison key symbol operand).outcome = .ok f' ∧
        SameJoins compiler compiler' (.all [.property key (.compare op operand)]) f f' := by
  refine ⟨h.compilesAlike, fun filter => h.buildsAlike filter fun _ ht => ht, ?_, ?_, ?_⟩
  · intro v
    unfold buildJson
    split
    · exact .empty
    · exact .empty
    · rename_i w _
      simp only [Traced.outcome_bind, Traced.outcome_ofExcept]
      cases hread : Filter.ofJson w with
      | error e => exact .error e
      | ok t =>
          refine h.buildsAlike (some t) fun u hu => ⟨w, rfl, ?_⟩
          cases hu
          exact hread
  · intro text
    simp only [buildText, Traced.outcome_bind, Traced.outcome_ofExcept]
    cases hread : Filter.ofText text with
    | error e => exact .error e
    | ok filter =>
        refine h.buildsAlike filter fun t ht => ?_
        rw [ht]
  · intro key symbol operand
    rw [compileComparison_outcome, compileComparison_outcome]
    cases hop : Comparison.parse symbol with
    | error e => exact .inl ⟨e, rfl, rfl⟩
    | ok op =>
        have hcompiles := h.compilesAlike (.all [.property key (.compare op operand)])
        rw [except_ok_bind, except_ok_bind]
        generalize (compiler.compile _).outcome = x, (compiler'.compile _).outcome = y
          at hcompiles ⊢
        cases hcompiles with
        | error e => exact .inl ⟨e, rfl, rfl⟩
        | ok joins => exact .inr ⟨op, _, _, rfl, rfl, rfl, joins⟩

/-- The compiler for the columns of `awkward` on the other backend. -/
def awkwardHana : Compiler where
  layout := { awkward.layout with backend := .hana }
  checked := rfl

/-- One backend converts a column and searches with the placeholder
last, the other searches with the placeholder first. The texts differ,
and they are the same joins. -/
theorem backends_agree_awkward :
    ∃ f f', (awkward.compile awkwardFilter).outcome = .ok f ∧
      (awkwardHana.compile awkwardFilter).outcome = .ok f' ∧
      f.sql = "((\"a') AND \"\"b\" BETWEEN ? AND ?) OR " ++
        "(contains(json_extract_string(\"m\"\" OR (\", '$.body.text'), ?))) AND " ++
        "(TRY_CAST(json_extract_string(\"m\"\" OR (\", '$.k') AS BOOLEAN) = ?::BOOLEAN)" ∧
      f'.sql = "((\"a') AND \"\"b\" BETWEEN ? AND ?) OR " ++
        "(SCORE(? IN (JSON_VALUE(\"m\"\" OR (\", '$.body.text') " ++
        "EXACT SEARCH MODE 'text')) > 0)) AND " ++
        "(JSON_VALUE(\"m\"\" OR (\", '$.k') = TO_BOOLEAN(?))" ∧
      SameJoins awkward awkwardHana awkwardFilter f f' := by
  have hcompiles := (backends_agree awkward awkwardHana rfl).1 awkwardFilter
  refine ⟨_, _, rfl, rfl, rfl, rfl, ?_⟩
  cases hcompiles with
  | ok joins => exact joins

end Compiler

end FilterSql
