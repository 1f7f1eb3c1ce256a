import FilterSql.Proofs.Interpretation
import FilterSql.Proofs.Predicate

/-!
# `FilterSql.Proofs.Reference`: compiling in two phases

The compiler looks for defects while it writes. The same can be done
in two phases that know nothing of each other: collect all defects of
the tree from left to right, then write the tree as if there were
none. Both phases are interpretations of the tree.

* `Filter.defects`: the defects in the order of the traversal. A
  filter is asked for its depth, then for its clauses, then each
  clause is looked at; a connective is asked for its parts first.
* `Filter.rendered`: the fragment of a tree without defects.
* `Layout.filter_outcome`: the compiler reports the first defect, or
  gives the rendered fragment.
* `Filter.defects_eq_nil_iff`: what a tree without defects looks like.
-/

set_option autoImplicit false

namespace FilterSql

/-! ### Joining without failure -/

namespace Fragment

/-- The text of conditions joined by a connective. -/
def joinedText (op : Connective) : List String → String
  | [text] => text
  | texts => Text.joined (" " ++ op.keyword ++ " ") (texts.map parenthesized)

/-- Fragments joined by a connective. -/
def joined (op : Connective) (fragments : List Fragment) : Fragment where
  sql := joinedText op (fragments.map Fragment.sql)
  params := (fragments.map Fragment.params).flatten

/-- Joining fails for no fragments and for one without text, and for
nothing else. Where it does not fail, nothing is logged. -/
theorem join_eq_pure (op : Connective) (fragments : List Fragment)
    (hne : fragments ≠ []) (htexts : ∀ f ∈ fragments, f.sql ≠ "") :
    join op fragments = pure (joined op fragments) := by
  have hmem : "" ∉ fragments.map Fragment.sql := by
    intro h
    obtain ⟨f, hf, hsql⟩ := List.mem_map.mp h
    exact htexts f hf hsql
  have hjoin : joinTexts op (fragments.map Fragment.sql)
      = pure (joinedText op (fragments.map Fragment.sql)) := by
    match fragments, hne with
    | [f], _ =>
        have hf : f.sql ≠ "" := htexts f (List.mem_singleton_self f)
        simp [joinTexts, joinedText, hf]
    | f :: g :: fs, _ =>
        -- With more than one text all are looked at before any is joined.
        have hcontains : ((f :: g :: fs).map Fragment.sql).contains "" = false := by
          rw [List.contains_eq_mem]
          exact decide_eq_false hmem
        rw [List.map_cons, List.map_cons] at hcontains ⊢
        simp only [joinTexts, hcontains, Bool.false_eq_true, if_false]
        rfl
  simp only [join, hjoin, pure_bind]
  rfl

/-- Fragments with a text can be joined. -/
theorem join_outcome (op : Connective) (fragments : List Fragment)
    (hne : fragments ≠ []) (htexts : ∀ f ∈ fragments, f.sql ≠ "") :
    (join op fragments).outcome = .ok (joined op fragments) := by
  rw [join_eq_pure op fragments hne htexts, Traced.outcome_pure]

/-- Joining some texts gives a text. -/
theorem joinedText_ne_empty (op : Connective) {texts : List String} (hne : texts ≠ [])
    (htexts : ∀ text ∈ texts, text ≠ "") : joinedText op texts ≠ "" := by
  match texts, hne with
  | [text], _ => exact htexts text (List.mem_singleton_self text)
  | text :: text' :: texts, _ =>
      simp [joinedText, Text.joined, parenthesized]

end Fragment

/-! ### The two phases -/

/-- What is wrong with a tree at the given depth, from left to right.
The depth grows with every connective. -/
def Interpretation.defects (layout : Layout) : Interpretation (Nat → List Error) where
  condition key condition := fun _ => layout.propertyDefects key condition
  filter clauses := fun depth =>
    (if Filter.maxDepth < depth then [.tooDeep Filter.maxDepth] else []) ++
      ((if clauses.isEmpty then [.emptyFilter] else []) ++
        clauses.flatMap fun clause => clause depth)
  connective op parts := fun depth =>
    (if parts.isEmpty then [.emptyConnective op] else []) ++
      parts.flatMap fun part => part (depth + 1)

/-- The fragment of a tree, whether or not something is wrong with
it. -/
def Interpretation.rendered (layout : Layout) : Interpretation Fragment :=
  .joining layout.propertyFragment Fragment.joined

/-- What is wrong with a filter at the given depth. -/
def Filter.defects (layout : Layout) (t : Filter) (depth : Nat) : List Error :=
  t.interpret (.defects layout) depth

/-- The fragment of a filter without defects. -/
def Filter.rendered (layout : Layout) (t : Filter) : Fragment :=
  t.interpret (.rendered layout)

/-- The defects of a filter: its depth, its lack of clauses, and those of
its clauses. -/
theorem Filter.defects_all (layout : Layout) (cs : List Clause) (depth : Nat) :
    (Filter.all cs).interpret (.defects layout) depth
      = (if Filter.maxDepth < depth then [.tooDeep Filter.maxDepth] else []) ++
          ((if cs.isEmpty then [.emptyFilter] else []) ++
            cs.flatMap fun c => c.interpret (.defects layout) depth) := by
  rw [Filter.interpret_all]
  simp only [Interpretation.defects, List.isEmpty_map, List.flatMap_map]

/-- The defects of a connective: its lack of parts, and those of its
parts. -/
theorem Clause.defects_joined (layout : Layout) (op : Connective) (fs : List Filter)
    (depth : Nat) :
    (Clause.joined op fs).interpret (.defects layout) depth
      = (if fs.isEmpty then [.emptyConnective op] else []) ++
          fs.flatMap fun f => f.interpret (.defects layout) (depth + 1) := by
  rw [Clause.interpret_joined]
  simp only [Interpretation.defects, List.isEmpty_map, List.flatMap_map]

/-- A filter without defects is not too deep, has clauses, and has no
defects in them. -/
theorem Filter.defects_all_eq_nil_iff (layout : Layout) (cs : List Clause) (depth : Nat) :
    (Filter.all cs).interpret (.defects layout) depth = [] ↔
      depth ≤ Filter.maxDepth ∧ cs ≠ [] ∧
        ∀ c ∈ cs, c.interpret (.defects layout) depth = [] := by
  rw [Filter.defects_all, List.append_eq_nil_iff, List.append_eq_nil_iff]
  simp

/-- A connective without defects has parts, and has no defects in
them. -/
theorem Clause.defects_joined_eq_nil_iff (layout : Layout) (op : Connective)
    (fs : List Filter) (depth : Nat) :
    (Clause.joined op fs).interpret (.defects layout) depth = [] ↔
      fs ≠ [] ∧ ∀ f ∈ fs, f.interpret (.defects layout) (depth + 1) = [] := by
  rw [Clause.defects_joined, List.append_eq_nil_iff]
  simp

namespace Layout

/-- The text of a list of trees without defects. -/
private theorem joined_sql_ne_empty {α : Type} (op : Connective) {xs : List α}
    {render : α → Fragment} (hne : xs ≠ []) (htexts : ∀ x ∈ xs, (render x).sql ≠ "") :
    (Fragment.joined op (xs.map render)).sql ≠ "" := by
  refine Fragment.joinedText_ne_empty op (by simpa using hne) ?_
  intro text htext
  simp only [List.map_map, List.mem_map, Function.comp_apply] at htext
  obtain ⟨x, hx, rfl⟩ := htext
  exact htexts x hx

/-- A condition without defects has a text. -/
theorem propertyFragment_sql_ne_empty {layout : Layout} {key : String}
    {condition : Condition} (h : layout.propertyDefects key condition = []) :
    (layout.propertyFragment key condition).sql ≠ "" := by
  have hshape : condition.shapeDefects = [] := by
    simp only [propertyDefects, List.append_eq_nil_iff] at h
    exact h.2.1
  exact Sql.Backend.predicate_ne_empty _ _ ((Condition.fits_literals hshape).map _)

/-! ### The compiler against the two phases -/

/-- What is asked of a filter before its clauses are looked at. -/
theorem checkClauses_eq {α : Type} (depth : Nat) (cs : List α) :
    checkClauses depth cs
      = report ((if Filter.maxDepth < depth then [.tooDeep Filter.maxDepth] else []) ++
          (if cs.isEmpty then [.emptyFilter] else [])) () := by
  unfold checkClauses
  by_cases hdepth : Filter.maxDepth < depth
  · simp [hdepth]
  · by_cases hempty : cs.isEmpty = true
    · simp [hdepth, hempty]
    · simp [hdepth, hempty]

/-- A run at any depth meets the defects of that depth and gives the
fragment. The fragment has a text, which is what the run above it
relies on when it joins. -/
structure Renders (run : Nat → Traced Error Fragment) (defects : Nat → List Error)
    (fragment : Fragment) : Prop where
  outcome : ∀ depth, (run depth).outcome = report (defects depth) fragment
  text : ∀ depth, defects depth = [] → fragment.sql ≠ ""

/-- A filter is compiled as the two phases say. -/
def RendersFilter (layout : Layout) (t : Filter) : Prop :=
  Renders (fun depth => layout.filter depth t)
    (t.interpret (.defects layout)) (t.interpret (.rendered layout))

/-- A clause is compiled as the two phases say. -/
def RendersClause (layout : Layout) (c : Clause) : Prop :=
  Renders (fun depth => layout.clause depth c)
    (c.interpret (.defects layout)) (c.interpret (.rendered layout))

/-- Joining the members of a list once they are compiled: without
defects there is nothing for it to fail on. -/
private theorem outcome_mapM_join {α : Type} (op : Connective) {xs : List α}
    {run : α → Traced Error Fragment} {defects : α → List Error} {render : α → Fragment}
    (hne : xs ≠ []) (hrun : ∀ x ∈ xs, (run x).outcome = report (defects x) (render x))
    (htexts : ∀ x ∈ xs, defects x = [] → (render x).sql ≠ "") :
    (xs.mapM run >>= Fragment.join op).outcome
      = report (xs.flatMap defects) (Fragment.joined op (xs.map render)) := by
  rw [Traced.outcome_bind, Traced.outcome_mapM hrun]
  refine (report_bind fun hdefects => ?_).trans (by rw [List.append_nil])
  rw [List.flatMap_eq_nil_iff] at hdefects
  refine Fragment.join_outcome op _ (by simpa using hne) ?_
  rw [List.forall_mem_map]
  exact fun x hx => htexts x hx (hdefects x hx)

/-- A filter, given its clauses. -/
theorem renders_all (layout : Layout) (cs : List Clause)
    (ih : ∀ c ∈ cs, layout.RendersClause c) : layout.RendersFilter (.all cs) := by
  constructor
  · intro depth
    rw [Filter.defects_all, Filter.interpret_all, filter_all, Traced.outcome_bind,
      Traced.outcome_ofExcept, checkClauses_eq, ← List.append_assoc]
    refine report_bind fun hchecked => ?_
    -- The check has passed, so there are clauses to join.
    refine outcome_mapM_join .and ?_ (fun c hc => (ih c hc).outcome depth)
      fun c hc => (ih c hc).text depth
    rintro rfl
    simp at hchecked
  · intro depth h
    obtain ⟨-, hne, hcs⟩ := (Filter.defects_all_eq_nil_iff layout cs depth).mp h
    rw [Filter.interpret_all]
    exact joined_sql_ne_empty .and hne fun c hc => (ih c hc).text depth (hcs c hc)

/-- A connective, given its parts. -/
theorem renders_joined (layout : Layout) (op : Connective) (fs : List Filter)
    (ih : ∀ f ∈ fs, layout.RendersFilter f) : layout.RendersClause (.joined op fs) := by
  constructor
  · intro depth
    rw [Clause.defects_joined, Clause.interpret_joined, clause_joined, Traced.outcome_bind,
      Traced.outcome_emit, except_ok_bind]
    cases fs with
    | nil => rfl
    | cons f fs =>
        -- The parts are one level deeper than the connective.
        exact outcome_mapM_join op (List.cons_ne_nil f fs)
          (fun g hg => (ih g hg).outcome (depth + 1)) fun g hg => (ih g hg).text (depth + 1)
  · intro depth h
    obtain ⟨hne, hfs⟩ := (Clause.defects_joined_eq_nil_iff layout op fs depth).mp h
    rw [Clause.interpret_joined]
    exact joined_sql_ne_empty op hne fun f hf => (ih f hf).text (depth + 1) (hfs f hf)

/-- A condition. -/
theorem renders_property (layout : Layout) (key : String) (condition : Condition) :
    layout.RendersClause (.property key condition) := by
  rw [RendersClause, Clause.interpret_property, Clause.interpret_property]
  constructor
  · intro depth
    rw [clause_property, property_outcome]
    rfl
  · intro depth h
    exact propertyFragment_sql_ne_empty h

/-- Every filter is rendered as the reference says, or fails with its
first defect. -/
theorem rendersFilter (layout : Layout) (t : Filter) : layout.RendersFilter t :=
  Filter.induct (renders_all layout) (renders_joined layout) (renders_property layout) t

/-- And so is every clause. -/
theorem rendersClause (layout : Layout) (c : Clause) : layout.RendersClause c :=
  Clause.induct (renders_all layout) (renders_joined layout) (renders_property layout) c

/-- The compiler reports the first defect in the order of the
traversal, and renders a tree that has none. -/
theorem filter_outcome (layout : Layout) (depth : Nat) (t : Filter) :
    (layout.filter depth t).outcome
      = report (t.defects layout depth) (t.rendered layout) :=
  (layout.rendersFilter t).outcome depth

/-! ### Trees without defects -/

/-- What is asked of a condition on a property. -/
structure Admits (layout : Layout) (key : String) (condition : Condition) : Prop where
  /-- The property has a column of its own, or its key is a path. -/
  key : key ∈ layout.specificColumns ∨ isPath key = true
  /-- The lists of `$in` and `$nin` have a member. -/
  list : condition.op = .oneOf ∨ condition.op = .noneOf →
    ∃ v vs, condition.operand = .array (v :: vs)
  /-- The list of `$between` has two members. -/
  range : condition.op = .between → ∃ low high, condition.operand = .array [low, high]
  /-- Every literal can be bound. -/
  literals : ∀ v ∈ condition.literals, Literal.Encodable v

/-- A key has no defect if it is a dedicated column or a path. -/
theorem keyDefects_eq_nil_iff (layout : Layout) (key : String) :
    layout.keyDefects key = [] ↔ key ∈ layout.specificColumns ∨ isPath key = true := by
  unfold keyDefects isSpecific
  by_cases hmem : key ∈ layout.specificColumns
  · simp [hmem]
  · simp [hmem]

end Layout

/-- The shape of an operand is right if the operators that want an
array get one of the right length. -/
theorem Comparison.shapeDefects_eq_nil_iff (op : Comparison) (operand : Json) :
    op.shapeDefects operand = [] ↔
      (op = .oneOf ∨ op = .noneOf → ∃ v vs, operand = .array (v :: vs)) ∧
        (op = .between → ∃ low high, operand = .array [low, high]) := by
  constructor
  · intro h
    have hfits := Comparison.fits_literals h
    constructor
    · rintro (rfl | rfl)
      all_goals
        cases operand with
        | array items =>
            obtain - | - | - | ⟨v, vs⟩ := hfits
            exact ⟨v, vs, rfl⟩
        | _ => cases h
    · rintro rfl
      cases operand with
      | array items =>
          obtain - | - | ⟨low, high⟩ | - := hfits
          exact ⟨low, high, rfl⟩
      | _ => cases h
  · rintro ⟨hlist, hrange⟩
    cases op with
    | oneOf =>
        obtain ⟨v, vs, rfl⟩ := hlist (.inl rfl)
        rfl
    | noneOf =>
        obtain ⟨v, vs, rfl⟩ := hlist (.inr rfl)
        rfl
    | between =>
        obtain ⟨low, high, rfl⟩ := hrange rfl
        rfl
    | _ => rfl

/-- A condition has no defects if it is what is asked for. -/
theorem Layout.propertyDefects_eq_nil_iff (layout : Layout) (key : String)
    (condition : Condition) :
    layout.propertyDefects key condition = [] ↔ layout.Admits key condition := by
  simp only [Layout.propertyDefects, List.append_eq_nil_iff, List.flatMap_eq_nil_iff,
    Layout.keyDefects_eq_nil_iff, Condition.shapeDefects,
    Comparison.shapeDefects_eq_nil_iff, Literal.defects_eq_nil_iff]
  constructor
  · rintro ⟨hkey, ⟨hlist, hrange⟩, hliterals⟩
    exact ⟨hkey, hlist, hrange, hliterals⟩
  · rintro ⟨hkey, hlist, hrange, hliterals⟩
    exact ⟨hkey, ⟨hlist, hrange⟩, hliterals⟩

/-- How deep connectives are nested. -/
def Interpretation.nesting : Interpretation Nat where
  condition _ _ := 0
  filter clauses := clauses.foldr max 0
  connective _ parts := 1 + parts.foldr max 0

/-- How deep connectives are nested in a filter. -/
def Filter.nesting (t : Filter) : Nat :=
  t.interpret .nesting

/-- A bound on the deepest member of a list is a bound on every member,
and holds without any. -/
theorem add_foldr_max_le_iff {depth k : Nat} {ns : List Nat} :
    depth + ns.foldr max 0 ≤ k ↔ depth ≤ k ∧ ∀ n ∈ ns, depth + n ≤ k := by
  induction ns with
  | nil => simp
  | cons n ns ih =>
      rw [List.foldr_cons, List.forall_mem_cons, and_left_comm, ← ih]
      omega

/-- A member of a list is at least as deep as the list itself. -/
theorem add_foldr_max_le_iff_of_ne_nil {depth k : Nat} {ns : List Nat} (hne : ns ≠ []) :
    depth + ns.foldr max 0 ≤ k ↔ ∀ n ∈ ns, depth + n ≤ k := by
  rw [add_foldr_max_le_iff]
  refine and_iff_right_of_imp fun h => ?_
  obtain ⟨n, hn⟩ := List.exists_mem_of_ne_nil ns hne
  have := h n hn
  omega

namespace Filter

/-- A list of trees is as it should be if it has a member and all
members are. -/
private theorem list_in_order {α : Type} {xs : List α} {nesting : α → Nat}
    {full : α → Bool} {props : α → List (String × Condition)}
    {P : String × Condition → Prop} {depth k : Nat} :
    (xs ≠ [] ∧ ∀ x ∈ xs, depth + nesting x ≤ k ∧ full x = true ∧ ∀ p ∈ props x, P p) ↔
      depth + (xs.map nesting).foldr max 0 ≤ k ∧
        (!(xs.map full).isEmpty && (xs.map full).all id) = true ∧
        ∀ p ∈ (xs.map props).flatten, P p := by
  cases xs with
  | nil => simp
  | cons x xs =>
      rw [add_foldr_max_le_iff_of_ne_nil (by simp), List.forall_mem_map]
      simp only [ne_eq, reduceCtorEq, not_false_eq_true, true_and, List.map_cons,
        List.isEmpty_cons, Bool.not_false, Bool.true_and, List.all_cons, id, List.all_map,
        Bool.and_eq_true, List.all_eq_true, Function.comp_apply, List.flatten_cons,
        List.mem_append, List.mem_flatten, List.mem_map, List.forall_mem_cons]
      constructor
      · rintro ⟨⟨hn, hf, hp⟩, h⟩
        refine ⟨⟨hn, fun y hy => (h y hy).1⟩, ⟨hf, fun y hy => (h y hy).2.1⟩, ?_⟩
        rintro p (hpx | ⟨ps, ⟨y, hy, rfl⟩, hpy⟩)
        · exact hp p hpx
        · exact (h y hy).2.2 p hpy
      · rintro ⟨⟨hn, hns⟩, ⟨hf, hfs⟩, hp⟩
        refine ⟨⟨hn, hf, fun p hpx => hp p (.inl hpx)⟩, fun y hy => ⟨hns y hy, hfs y hy, ?_⟩⟩
        intro p hpy
        exact hp p (.inr ⟨props y, ⟨y, hy, rfl⟩, hpy⟩)

/-- What a tree without defects at the given depth looks like. For a
clause the depth itself is in order, since its filter has been asked
for it. -/
theorem defects_eq_nil_iff (layout : Layout) (t : Filter) (depth : Nat) :
    t.defects layout depth = [] ↔
      depth + t.nesting ≤ maxDepth ∧ t.isFull = true ∧
        ∀ p ∈ t.properties, layout.Admits p.1 p.2 := by
  revert depth
  refine Filter.induct (P := fun t => ∀ depth, t.defects layout depth = [] ↔
      depth + t.nesting ≤ maxDepth ∧ t.isFull = true ∧
        ∀ p ∈ t.properties, layout.Admits p.1 p.2)
    (Q := fun c => ∀ depth, depth ≤ maxDepth → (c.interpret (.defects layout) depth = [] ↔
      depth + c.interpret .nesting ≤ maxDepth ∧ c.interpret .full = true ∧
        ∀ p ∈ c.interpret .properties, layout.Admits p.1 p.2))
    ?_ ?_ ?_ t
  · intro cs ih depth
    simp only [Filter.defects, Filter.nesting, Filter.isFull, Filter.properties]
    rw [defects_all_eq_nil_iff, Filter.interpret_all, Filter.interpret_all,
      Filter.interpret_all]
    refine Iff.trans ?_ list_in_order
    constructor
    · rintro ⟨hdepth, hne, hcs⟩
      exact ⟨hne, fun c hc => (ih c hc depth hdepth).mp (hcs c hc)⟩
    · rintro ⟨hne, hcs⟩
      -- The bound for any clause is a bound for the filter itself.
      have hdepth : depth ≤ maxDepth := by
        obtain ⟨c, hc⟩ := List.exists_mem_of_ne_nil cs hne
        have := (hcs c hc).1
        omega
      exact ⟨hdepth, hne, fun c hc => (ih c hc depth hdepth).mpr (hcs c hc)⟩
  · intro op fs ih depth _
    rw [Clause.defects_joined_eq_nil_iff, Clause.interpret_joined, Clause.interpret_joined,
      Clause.interpret_joined]
    -- A connective is one level, and its parts start behind it.
    rw [show depth + Interpretation.nesting.connective op (fs.map (Filter.interpret .nesting))
        = depth + 1 + (fs.map Filter.nesting).foldr max 0 from (Nat.add_assoc _ _ _).symm]
    refine Iff.trans ?_ list_in_order
    exact and_congr_right fun _ => forall₂_congr fun f hf => ih f hf (depth + 1)
  · intro key condition depth hdepth
    rw [Clause.interpret_property, Clause.interpret_property, Clause.interpret_property,
      Clause.interpret_property]
    show layout.propertyDefects key condition = [] ↔ depth + 0 ≤ maxDepth ∧ true = true ∧
      ∀ p ∈ [(key, condition)], layout.Admits p.1 p.2
    rw [Layout.propertyDefects_eq_nil_iff]
    simp [hdepth]

end Filter

namespace Compiler

variable (compiler : Compiler)

/-- What comes of a filter: its first defect, or its fragment. -/
theorem compile_outcome (t : Filter) :
    (compiler.compile t).outcome
      = report (t.defects compiler.layout 0) (t.rendered compiler.layout) := by
  rw [compile_eq, Layout.filter_outcome]

/-- A compiled filter is full, its conditions have no defects, and it
is rendered. -/
theorem rendered_of_compile {t : Filter} {fragment : Fragment}
    (h : (compiler.compile t).outcome = .ok fragment) :
    t.isFull = true ∧
      (∀ p ∈ t.properties, compiler.layout.propertyDefects p.1 p.2 = []) ∧
      t.rendered compiler.layout = fragment := by
  rw [compile_outcome, report_eq_ok_iff, Filter.defects_eq_nil_iff] at h
  obtain ⟨⟨-, hfull, hprops⟩, hrendered⟩ := h
  refine ⟨hfull, ?_, hrendered⟩
  intro p hp
  exact (Layout.propertyDefects_eq_nil_iff _ _ _).mpr (hprops p hp)

/-- A condition compiled alone is its fragment. -/
theorem compile_property_outcome (key : String) (condition : Condition) :
    (compiler.compile (.all [.property key condition])).outcome
      = report (compiler.layout.propertyDefects key condition)
          (compiler.layout.propertyFragment key condition) := by
  rw [compile_outcome]
  simp [Filter.defects, Filter.rendered, Interpretation.defects, Interpretation.rendered,
    Interpretation.joining, Fragment.joined, Fragment.joinedText]

/-- A single comparison is compiled as the filter that asks nothing
else, once its operator is read. -/
theorem compileComparison_outcome (key symbol : String) (operand : Json) :
    (compiler.compileComparison key symbol operand).outcome
      = Comparison.parse symbol >>= fun op =>
          (compiler.compile (.all [.property key (.compare op operand)])).outcome := by
  simp only [compile_property_outcome, ← Layout.property_outcome]
  rw [compileComparison_eq_bind, Traced.outcome_bind]
  rfl

end Compiler

/-- Compiling is the two phases: the first defect in the order of the
traversal is the outcome, and a tree without defects is rendered. It
succeeds for the trees that are not nested too deep, hold no empty
list, and ask of every property what its column layout admits. -/
theorem Compiler.compile_eq_two_phases (compiler : Compiler) (t : Filter) :
    (compiler.compile t).outcome
        = report (t.defects compiler.layout 0) (t.rendered compiler.layout) ∧
      ((∃ fragment, (compiler.compile t).outcome = .ok fragment) ↔
        t.nesting ≤ 32 ∧ t.isFull = true ∧
          ∀ p ∈ t.properties, compiler.layout.Admits p.1 p.2) := by
  refine ⟨compiler.compile_outcome t, ?_⟩
  rw [compile_outcome, exists_report_eq_ok_iff, Filter.defects_eq_nil_iff, Nat.zero_add]
  rfl

end FilterSql
