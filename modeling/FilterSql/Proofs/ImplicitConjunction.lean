import FilterSql.Proofs.Names
import FilterSql.Proofs.Reference

/-!
# `FilterSql.Proofs.ImplicitConjunction`: a filter is the conjunction of its clauses

That all clauses of a filter have to hold can be left unsaid, or it can
be said by a conjunction whose parts are the clauses, each as a filter of
its own. The compiler takes two more joins on the way through the second
form and gets to the same text, the same parameters or the same error.
With a single clause the connective does not matter either.

The place of the filter is a `Filter.Context`: a tree with one filter left
open. What a tree means depends on what stands in the open place through
its meaning alone (`Filter.Context.interpret_fill`), so it is enough to
compare the two forms by themselves. The only thing that does not go
through is the depth, which grows by one in the second form. As long as
it stays within its bound it has no influence on what is found wrong
(`Filter.defects_eq_faults`).
-/

set_option autoImplicit false

namespace FilterSql

/-! ### Filters in their place -/

namespace Filter

/-- A filter with one filter inside it left open. -/
inductive Context where
  /-- The open place is all there is. -/
  | here
  /-- The open place is inside one of the parts that a clause joins. -/
  | inside (before : List Clause) (op : Connective) (left : List Filter) (inner : Context)
    (right : List Filter) (after : List Clause)

namespace Context

/-- The filter with `t` in the open place. -/
def fill : Context → Filter → Filter
  | here, t => t
  | inside before op left inner right after, t =>
    .all (before ++ .joined op (left ++ inner.fill t :: right) :: after)

section
variable {β : Type}

/-- The meaning of a filter, from the meaning of what stands in the open
place. -/
def interpret (I : Interpretation β) : Context → β → β
  | here, b => b
  | inside before op left inner right after, b =>
    I.filter (before.map (Clause.interpret I) ++
      I.connective op (left.map (Filter.interpret I) ++ inner.interpret I b ::
        right.map (Filter.interpret I)) :: after.map (Clause.interpret I))

/-- What stands in the open place matters through its meaning alone. -/
theorem interpret_fill (I : Interpretation β) (ctx : Context) (t : Filter) :
    (ctx.fill t).interpret I = ctx.interpret I (t.interpret I) := by
  induction ctx with
  | here => rfl
  | inside before op left inner right after ih =>
      rw [fill, Filter.interpret_all, List.map_append, List.map_cons, Clause.interpret_joined,
        List.map_append, List.map_cons, ih, interpret]

end

/-- A list goes at least as deep if one of its members does. -/
private theorem foldr_max_mono {m n : Nat} (h : m ≤ n) (left right : List Nat) :
    (left ++ m :: right).foldr max 0 ≤ (left ++ n :: right).foldr max 0 := by
  induction left with
  | nil =>
      simp only [List.nil_append, List.foldr_cons]
      omega
  | cons k left ih =>
      simp only [List.cons_append, List.foldr_cons]
      omega

/-- What is put into the open place makes the filter at least as deep as
anything that is less deep. -/
theorem nesting_mono {m n : Nat} (h : m ≤ n) (ctx : Context) :
    ctx.interpret .nesting m ≤ ctx.interpret .nesting n := by
  induction ctx with
  | here => exact h
  | inside before op left inner right after ih =>
      refine foldr_max_mono ?_ _ _
      exact Nat.add_le_add_left (foldr_max_mono ih _ _) 1

end Context

end Filter

/-! ### What is wrong at any depth -/

/-- What is wrong with a tree from left to right, its depth apart. -/
def Interpretation.faults (layout : Layout) : Interpretation (List Error) where
  condition := layout.propertyDefects
  filter clauses := (if clauses.isEmpty then [.emptyFilter] else []) ++ clauses.flatten
  connective op parts := (if parts.isEmpty then [.emptyConnective op] else []) ++ parts.flatten

/-- Members of a list with these faults at some depth have them together
as well. -/
private theorem flatMap_eq_flatten {α : Type} {xs : List α} {f : α → Nat → List Error}
    {g : α → List Error} {depth : Nat} (h : ∀ x ∈ xs, f x depth = g x) :
    ((xs.map f).flatMap fun d => d depth) = (xs.map g).flatten := by
  rw [List.flatMap_map, List.flatMap_def]
  exact congrArg List.flatten (List.map_congr_left h)

/-- Within the bound the depth has no influence on what is wrong with a
filter. A clause is at the depth of its filter, and the parts that it
joins are one level deeper. -/
theorem Filter.defects_eq_faults (layout : Layout) (t : Filter) (depth : Nat)
    (h : depth + t.nesting ≤ maxDepth) :
    t.defects layout depth = t.interpret (.faults layout) := by
  revert depth h
  refine Filter.induct (P := fun t => ∀ depth, depth + t.nesting ≤ maxDepth →
      t.defects layout depth = t.interpret (.faults layout))
    (Q := fun c => ∀ depth, depth + c.interpret .nesting ≤ maxDepth →
      c.interpret (.defects layout) depth = c.interpret (.faults layout))
    ?_ ?_ ?_ t
  · intro cs ih depth h
    rw [Filter.nesting, Filter.interpret_all] at h
    obtain ⟨hdepth, hcs⟩ := add_foldr_max_le_iff.mp h
    have hclauses := flatMap_eq_flatten fun c hc =>
      ih c hc depth (hcs _ (List.mem_map_of_mem hc))
    rw [Filter.defects, Filter.interpret_all, Filter.interpret_all]
    show (if maxDepth < depth then [Error.tooDeep maxDepth] else []) ++ (_ ++ _) = _ ++ _
    rw [if_neg (Nat.not_lt.mpr hdepth), hclauses, List.nil_append, List.isEmpty_map,
      List.isEmpty_map]
  · intro op fs ih depth h
    rw [Clause.interpret_joined] at h
    -- The level of the connective is counted before those below it.
    have hbound : depth + 1 + (fs.map (Filter.interpret .nesting)).foldr max 0 ≤ maxDepth := by
      rw [Nat.add_assoc]
      exact h
    obtain ⟨-, hfs⟩ := add_foldr_max_le_iff.mp hbound
    have hparts : ((fs.map (Filter.interpret (.defects layout))).flatMap fun d => d (depth + 1))
        = (fs.map (Filter.interpret (.faults layout))).flatten :=
      flatMap_eq_flatten fun f hf => ih f hf (depth + 1) (hfs _ (List.mem_map_of_mem hf))
    rw [Clause.interpret_joined, Clause.interpret_joined]
    show _ ++ _ = _ ++ _
    rw [hparts, List.isEmpty_map, List.isEmpty_map]
  · intro key condition depth _
    rw [Clause.interpret_property, Clause.interpret_property]
    rfl

/-! ### The two forms -/

namespace Filter

/-- The filter that says by a connective how its clauses are joined, each
of them as a filter of its own. -/
def outspoken (op : Connective) (cs : List Clause) : Filter :=
  .all [.joined op (cs.map fun c => .all [c])]

variable {op : Connective} {cs : List Clause}

/-- The connective is all that is left of the second form, if a filter
with one clause means what the clause means. -/
theorem interpret_outspoken {β : Type} {I : Interpretation β} (hone : ∀ b, I.filter [b] = b) :
    (outspoken op cs).interpret I = I.connective op (cs.map (Clause.interpret I)) := by
  have hclause : ∀ c : Clause, (Filter.all [c]).interpret I = c.interpret I := by
    intro c
    rw [Filter.interpret_all, List.map_singleton, hone]
  have hparts : (cs.map fun c => Filter.all [c]).map (Filter.interpret I)
      = cs.map (Clause.interpret I) := by
    rw [List.map_map]
    exact List.map_congr_left fun c _ => hclause c
  rw [outspoken, hclause, Clause.interpret_joined, hparts]

/-- Both forms are written alike. A single clause is joined with nothing,
so its connective is not written. -/
theorem rendered_outspoken (layout : Layout) (h : op = .and ∨ cs.length = 1) :
    (outspoken op cs).rendered layout = (Filter.all cs).rendered layout := by
  have hone : ∀ (op : Connective) (f : Fragment), Fragment.joined op [f] = f := by
    intro op f
    simp [Fragment.joined, Fragment.joinedText]
  rw [rendered, rendered, interpret_outspoken (hone .and), Filter.interpret_all]
  show Fragment.joined op _ = Fragment.joined .and _
  rcases h with rfl | hlength
  · rfl
  · obtain ⟨c, rfl⟩ := List.length_eq_one_iff.mp hlength
    rw [List.map_singleton, hone, hone]

/-- The same is wrong with both forms, in the same order. There are
clauses, so neither the filter nor the connective is empty. -/
theorem faults_outspoken (layout : Layout) (hne : cs ≠ []) :
    (outspoken op cs).interpret (.faults layout)
      = (Filter.all cs).interpret (.faults layout) := by
  have hone : ∀ es, (Interpretation.faults layout).filter [es] = es := by
    intro es
    simp [Interpretation.faults]
  rw [interpret_outspoken hone, Filter.interpret_all]
  simp [Interpretation.faults, hne]

/-- The second form is one connective deeper. -/
theorem nesting_le_outspoken : (Filter.all cs).nesting ≤ (outspoken op cs).nesting := by
  have hone : ∀ n, Interpretation.nesting.filter [n] = n := by
    intro n
    simp [Interpretation.nesting]
  rw [nesting, nesting, interpret_outspoken hone, Filter.interpret_all]
  exact Nat.le_add_left _ 1

end Filter

namespace Compiler

variable (compiler : Compiler)

/-- It makes no difference whether a filter leaves it unsaid that all its
clauses have to hold or says so by a conjunction of them, and none by
which connective a single clause is joined. Wherever the filter stands,
text and parameters are the same, or the error is, provided that the
connectives are not nested too deep. -/
theorem conjunction_is_implicit (ctx : Filter.Context) (op : Connective) (cs : List Clause)
    (hne : cs ≠ []) (hop : op = .and ∨ cs.length = 1)
    (hnesting : (ctx.fill (.outspoken op cs)).nesting ≤ 32) :
    (compiler.compile (ctx.fill (.outspoken op cs))).outcome
      = (compiler.compile (ctx.fill (.all cs))).outcome := by
  have hshallow : (ctx.fill (.all cs)).nesting ≤ 32 := by
    rw [Filter.nesting, ctx.interpret_fill] at hnesting ⊢
    exact Nat.le_trans (ctx.nesting_mono Filter.nesting_le_outspoken) hnesting
  have hdefects : ∀ t : Filter, t.nesting ≤ 32 →
      t.defects compiler.layout 0 = t.interpret (.faults compiler.layout) := by
    intro t ht
    refine t.defects_eq_faults compiler.layout 0 ?_
    rw [Nat.zero_add]
    exact ht
  rw [compile_outcome, compile_outcome, hdefects _ hnesting,
    hdefects _ hshallow, Filter.rendered, Filter.rendered]
  -- Both phases see the two forms through their meaning.
  simp only [Filter.Context.interpret_fill]
  rw [Filter.faults_outspoken compiler.layout hne]
  congr 2
  exact Filter.rendered_outspoken compiler.layout hop

/-- A disjunction with one part left open, beside a condition. -/
def openPart : Filter.Context :=
  .inside [.property "k" (.equals (.bool true))] .or
    [.all [.property "body.text" (.compare .contains (.string "z"))]] .here [] []

/-- Two clauses stay two conditions in one pair of parentheses, and a
clause that cannot be compiled gives its error in both forms. -/
theorem conjunction_is_implicit_inside :
    (∃ fragment,
      (awkward.compile (openPart.fill (.outspoken .and
        [.property "a" (.compare .less (.number (.integer 3))),
         .property "b" (.equals (.string "x"))]))).outcome = .ok fragment ∧
      (awkward.compile (openPart.fill (.all
        [.property "a" (.compare .less (.number (.integer 3))),
         .property "b" (.equals (.string "x"))]))).outcome = .ok fragment ∧
      fragment.params = ["true", "z", "3", "x"]) ∧
    (awkward.compile (openPart.fill (.outspoken .or
        [.property "a" (.compare .oneOf (.array []))]))).outcome
          = .error (.emptyOperandList .oneOf) ∧
    (awkward.compile (openPart.fill (.all
        [.property "a" (.compare .oneOf (.array []))]))).outcome
          = .error (.emptyOperandList .oneOf) := by
  refine ⟨⟨_, rfl, ?_, rfl⟩, rfl, ?_⟩
  · exact (awkward.conjunction_is_implicit openPart .and _ (by simp) (.inl rfl) (by decide)).symm
  · exact (awkward.conjunction_is_implicit openPart .or _ (by simp) (.inr rfl) (by decide)).symm

end Compiler

end FilterSql
