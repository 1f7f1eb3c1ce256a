import FilterSql.Proofs.BooleanStructure
import FilterSql.Proofs.Distinctness

/-!
# `FilterSql.Proofs.UsedColumns`: a filter sees the columns of its own keys

A layout lists its dedicated columns in some order, maybe with
repetitions, and most of them are of no concern to a given filter. What
the compiler asks of a layout is where the properties of the filter live:
whether a key has a column of its own, and if it has none, what the JSON
column is called (`Layout.AgreeOn`). Two layouts that answer alike for
every key of a filter are not told apart, neither by the fragment nor by
the error nor by what is logged.

Nothing less would do. The selector of every key stands in the text, and
the text can be read back. So two layouts that give one text for a filter
answer alike for its keys.

* `Layout.filter_congr`: layouts that agree on the keys of a filter run
  alike on it, at any depth.
* `Compiler.agreeOn_of_compile`: layouts that give one fragment for a
  filter agree on its keys.
-/

set_option autoImplicit false

namespace FilterSql

/-- The keys of a filter, from left to right. -/
def Filter.keys (t : Filter) : List String :=
  t.properties.map Prod.fst

/-- Two layouts take a property from the same place. It has a dedicated
column in both or in neither, and without one it comes from JSON columns
of the same name. -/
structure Layout.AgreeOn (layout layout' : Layout) (key : String) : Prop where
  dedicated : key ∈ layout.specificColumns ↔ key ∈ layout'.specificColumns
  metadata : key ∉ layout.specificColumns → layout.metadataColumn = layout'.metadataColumn

/-! ### Layouts that agree are not told apart -/

namespace Layout

variable {layout layout' : Layout}

/-- A column is dedicated if it is listed. -/
theorem isSpecific_eq_true_iff (layout : Layout) (key : String) :
    layout.isSpecific key = true ↔ key ∈ layout.specificColumns := by
  simp [isSpecific]

/-- Layouts that agree on a key dedicate a column to it, or neither does. -/
theorem AgreeOn.isSpecific_eq {key : String} (h : layout.AgreeOn layout' key) :
    layout.isSpecific key = layout'.isSpecific key := by
  rw [Bool.eq_iff_iff, isSpecific_eq_true_iff, isSpecific_eq_true_iff]
  exact h.dedicated

/-- The lists of columns are asked for one key only, and the JSON column
only if they do not have it. -/
theorem AgreeOn.selector_eq {key : String} (h : layout.AgreeOn layout' key)
    (hbackend : layout.backend = layout'.backend) :
    layout.selector key = layout'.selector key := by
  unfold selector
  rw [← h.isSpecific_eq]
  cases hspecific : layout.isSpecific key with
  | true => rfl
  | false =>
      have hkey : key ∉ layout.specificColumns := by
        intro hmem
        rw [← isSpecific_eq_true_iff, hspecific] at hmem
        cases hmem
      rw [h.metadata hkey, hbackend]

/-- Once the property is selected, only the backend is asked for. -/
theorem operation_congr (hbackend : layout.backend = layout'.backend) :
    layout.operation = layout'.operation := by
  funext selector op operand
  unfold operation
  rw [hbackend]

/-- They render a property with that key in the same way. -/
theorem AgreeOn.property_eq {key : String} (h : layout.AgreeOn layout' key)
    (hbackend : layout.backend = layout'.backend) (condition : Condition) :
    layout.property key condition = layout'.property key condition := by
  cases condition with
  | equals v =>
      show layout.equality key v = layout'.equality key v
      unfold equality
      rw [h.selector_eq hbackend, hbackend]
  | compare op operand =>
      show layout.comparison key op operand = layout'.comparison key op operand
      unfold comparison
      rw [h.selector_eq hbackend, operation_congr hbackend]

/-- Layouts that agree on the keys of a filter run alike on it. They are
asked for the conditions only; around them, depths and lengths of lists
are looked at. -/
theorem filter_congr (hbackend : layout.backend = layout'.backend) (t : Filter)
    (h : ∀ p ∈ t.properties, layout.AgreeOn layout' p.1) (depth : Nat) :
    layout.filter depth t = layout'.filter depth t := by
  have hcompiling : t.interpret (.compiling layout) = t.interpret (.compiling layout') := by
    apply Filter.interpret_congr
    · rfl
    · rfl
    · intro p hp
      exact funext fun _ => (h p hp).property_eq hbackend p.2
  exact congrFun hcompiling depth

end Layout

/-! ### Layouts that are not told apart agree -/

/-- The leaves of a formula, from left to right. -/
def Formula.leaves {β : Type} : Formula β → List β :=
  fold (fun b => [b]) fun _ lists => lists.flatten

/-- The leaves of a filter's formula stand in the order of its
conditions. -/
theorem Filter.leaves_formula {β : Type} (leaf : String → Condition → β) (t : Filter)
    (hfull : t.isFull = true) :
    (t.formula leaf).leaves = t.properties.map fun p => leaf p.1 p.2 := by
  refine Filter.interpret_rel (R := fun (φ : Formula β) (ps : List (String × Condition)) =>
    φ.leaves = ps.map fun p => leaf p.1 p.2) ?_ t ?_ hfull
  · intro op φs pss _ h
    have hone : ∀ (op : Connective) (bs : List β), [bs].flatten = bs := by
      intro op bs
      exact List.flatten_singleton
    rw [Formula.leaves, Formula.fold_join _ (fun _ lists => List.flatten lists) hone,
      List.map_flatten]
    exact congrArg List.flatten (map_eq_map_of_forall₂ h)
  · intro p _
    exact Formula.fold_leaf _ _ (leaf p.1 p.2)

namespace Layout

variable {layout layout' : Layout} {key : String}

/-- The quotations of a selector tell where the property lives: a name is
one quotation, and a path comes behind the name of its column. -/
theorem agreeOn_of_quotations_eq (h : layout.quotations key = layout'.quotations key) :
    layout.AgreeOn layout' key := by
  unfold quotations at h
  have hspecific : layout.isSpecific key = layout'.isSpecific key := by
    cases hl : layout.isSpecific key <;> cases hl' : layout'.isSpecific key
    all_goals simp [hl, hl'] at h ⊢
  constructor
  · rw [← isSpecific_eq_true_iff, ← isSpecific_eq_true_iff, hspecific]
  · intro hkey
    rw [← isSpecific_eq_true_iff] at hkey
    rw [← hspecific, if_neg hkey, if_neg hkey, List.cons.injEq, Prod.mk.injEq] at h
    exact String.toList_inj.mp h.1.2

/-- What holds of the quotations holds of the whole text of a condition.
The comparison is the same, so a search adds the same string to both. -/
theorem agreeOn_of_propertyFragment_sql_eq (hbackend : layout.backend = layout'.backend)
    {c : Condition} (hfits : c.op.shape.Fits c.literals)
    (h : (layout.propertyFragment key c).sql = (layout'.propertyFragment key c).sql) :
    layout.AgreeOn layout' key := by
  obtain ⟨cast, hshows⟩ := layout.shows_propertyFragment key hfits
  obtain ⟨cast', hshows'⟩ := layout'.shows_propertyFragment key hfits
  -- One text has one outline, and the quotations of the selector stand in front in it.
  rw [← h, ← hbackend] at hshows'
  have hquotations := congrArg Sql.Outline.quotations (hshows.unique hshows')
  exact agreeOn_of_quotations_eq (List.append_cancel_right hquotations)

end Layout

namespace Compiler

variable {compiler compiler' : Compiler}

/-- Layouts that give one fragment for a filter agree on its keys. The
fragment is read as the formula of the filter with the leaves of either
compiler, so the leaves are the same one by one. -/
theorem agreeOn_of_compile (hbackend : compiler.layout.backend = compiler'.layout.backend)
    {t : Filter} {f : Fragment} (h : (compiler.compile t).outcome = .ok f)
    (h' : (compiler'.compile t).outcome = .ok f) :
    ∀ p ∈ t.properties, compiler.layout.AgreeOn compiler'.layout p.1 := by
  obtain ⟨hfull, hnone, -⟩ := compiler.rendered_of_compile h
  obtain ⟨-, hnone', -⟩ := compiler'.rendered_of_compile h'
  -- Both formulas are read from one text.
  have hread := (compiler.means_compile h).read_eq
  rw [(compiler'.means_compile h').read_eq, Option.some.injEq] at hread
  have hleaves := congrArg Formula.leaves hread
  rw [Filter.leaves_formula _ t hfull, Filter.leaves_formula _ t hfull, List.map_inj_left]
    at hleaves
  intro p hp
  have halone := hleaves p hp
  rw [(compiler.compile_alone (hnone p hp)).2, (compiler'.compile_alone (hnone' p hp)).2] at halone
  have hshape : p.2.shapeDefects = [] := by
    have hdefects := hnone p hp
    rw [Layout.propertyDefects, List.append_eq_nil_iff, List.append_eq_nil_iff] at hdefects
    exact hdefects.2.1
  exact Layout.agreeOn_of_propertyFragment_sql_eq hbackend (Condition.fits_literals hshape)
    (congrArg Fragment.sql halone).symm

/-- A filter sees the dedicated columns as a set, and of this set only
its own keys. For one backend, layouts whose lists of columns have the
same keys of the filter run alike on it, if they call the JSON column the
same or if every key of the filter has a column of its own. And where two
layouts give one fragment, this is how they agree. -/
theorem only_used_columns_matter (compiler compiler' : Compiler) (t : Filter)
    (hbackend : compiler.layout.backend = compiler'.layout.backend) :
    ((∀ key ∈ t.keys,
        key ∈ compiler.layout.specificColumns ↔ key ∈ compiler'.layout.specificColumns) →
      (compiler.layout.metadataColumn = compiler'.layout.metadataColumn →
        compiler.compile t = compiler'.compile t) ∧
      ((∀ key ∈ t.keys, key ∈ compiler.layout.specificColumns) →
        compiler.compile t = compiler'.compile t)) ∧
    ∀ f, (compiler.compile t).outcome = .ok f → (compiler'.compile t).outcome = .ok f →
      ∀ key ∈ t.keys, compiler.layout.AgreeOn compiler'.layout key := by
  simp only [Filter.keys, List.forall_mem_map]
  constructor
  · intro hkeys
    constructor
    · intro hmetadata
      rw [compile_eq, compile_eq]
      exact Layout.filter_congr hbackend t (fun p hp => ⟨hkeys p hp, fun _ => hmetadata⟩) 0
    · intro hall
      rw [compile_eq, compile_eq]
      exact Layout.filter_congr hbackend t
        (fun p hp => ⟨hkeys p hp, fun hnot => absurd (hall p hp) hnot⟩) 0
  · intro f hf hf'
    exact agreeOn_of_compile hbackend hf hf'

/-- The compiler for the columns of `awkward` in another order, one of
them twice, and for two more that `awkwardFilter` does not use. -/
def crowded : Compiler where
  layout :=
    { awkward.layout with specificColumns := ["z", "a') AND \"b", "body", "a') AND \"b"] }
  checked := rfl

/-- The same under another JSON column, and `k` has a column as well. -/
def moved : Compiler where
  layout := { crowded.layout with metadataColumn := "n", specificColumns := ["k", "a') AND \"b"] }
  checked := rfl

/-- A filter that asks for the dedicated column only. -/
def dedicatedFilter : Filter :=
  .all [.joined .or
    [.all [.property "a') AND \"b" (.equals (.string "x"))],
     .all [.property "a') AND \"b" (.compare .less (.number (.integer 3)))]]]

/-- Columns that are not used make no difference, and neither does the
JSON column to a filter without paths. A column for a key that is used
does. -/
theorem only_used_columns_matter_awkward :
    awkward.compile awkwardFilter = crowded.compile awkwardFilter ∧
    awkward.compile dedicatedFilter = moved.compile dedicatedFilter ∧
    (∃ f, (awkward.compile dedicatedFilter).outcome = .ok f) ∧
    ∃ f, (awkward.compile awkwardFilter).outcome = .ok f ∧
      (moved.compile awkwardFilter).outcome ≠ .ok f := by
  have hcrowded := awkward.only_used_columns_matter crowded awkwardFilter rfl
  have hdedicated := awkward.only_used_columns_matter moved dedicatedFilter rfl
  have hmoved := awkward.only_used_columns_matter moved awkwardFilter rfl
  refine ⟨(hcrowded.1 (by decide)).1 rfl, (hdedicated.1 (by decide)).2 (by decide),
    ⟨_, rfl⟩, _, rfl, ?_⟩
  intro hsame
  -- One fragment would mean that `k` has a column in both layouts or in none.
  have hagree := hmoved.2 _ rfl hsame "k" (by decide)
  exact absurd (hagree.dedicated.mpr (by decide)) (by decide)

end Compiler

end FilterSql
