import FilterSql.Compiler
import FilterSql.Proofs.Interpretation

/-!
# `FilterSql.Proofs.Fragments`: parts that know nothing of each other

The compiler walks over a filter with one list of parameters in its
hands, and every part of the filter binds its own behind those of the
parts before it. What a part writes and binds does not depend on what
is in the list already. So each part can be compiled for itself, to a
fragment of its own, and fragments are joined afterwards.

This is how compiling is reasoned about. `Layout.filter` compiles a
tree part by part, as an interpretation, and `Writes` says that a walk
does to the list what a fragment says.

* `Fragment.join`: fragments joined by a connective, their parameters
  one after the other.
* `Layout.writes_walk`: walking over a filter writes its fragment,
  whatever has been bound before.
* `Compiler.compile_eq`, `Compiler.compileComparison_eq_bind`: what is
  compiled is the fragment.
-/

set_option autoImplicit false

namespace FilterSql

/-! ### Fragments of parts -/

/-- Fragments joined by a connective, their parameters one after the
other. -/
def Fragment.join (op : Connective) (fragments : List Fragment) :
    Traced Error Fragment := do
  let sql ← joinTexts op (fragments.map Fragment.sql)
  pure ⟨sql, (fragments.map Fragment.params).flatten⟩

namespace Layout

/-- The fragment for a comparison of a selected property. -/
def operation (layout : Layout) (selector : String) (op : Comparison)
    (operand : Json) : Traced Error Fragment :=
  let backend := layout.backend
  match op.shape with
  | .textSearch => do
    let literal ← Literal.encode backend operand
    pure ⟨backend.textSearch selector literal.placeholder, [literal.param]⟩
  | .range =>
    match operand with
    | .array [low, high] => do
      let low ← Literal.encode backend low
      let high ← Literal.encode backend high
      let selector := backend.castSelector selector (Literal.sharedCast [low, high])
      pure
        ⟨selector ++ " " ++ op.keyword ++ " " ++ low.placeholder ++ " AND " ++
            high.placeholder,
          [low.param, high.param]⟩
    | .array bounds => .fail (.betweenArity bounds.length)
    | _ => .fail (.operandNotArray op operand)
  | .list =>
    match operand with
    | .array [] => .fail (.emptyOperandList op)
    | .array items => do
      let literals ← Literal.encodeAll backend items
      let selector := backend.castSelector selector (Literal.sharedCast literals)
      pure
        ⟨selector ++ " " ++ op.keyword ++ " (" ++
            Text.joined ", " (literals.map Literal.placeholder) ++ ")",
          literals.map Literal.param⟩
    | _ => .fail (.operandNotArray op operand)
  | .binary => do
    let literal ← Literal.encode backend operand
    let selector := backend.castSelector selector literal.cast
    pure
      ⟨selector ++ " " ++ op.keyword ++ " " ++ literal.placeholder,
        [literal.param]⟩

/-- The fragment for a comparison. -/
def comparison (layout : Layout) (key : String) (op : Comparison)
    (operand : Json) : Traced Error Fragment := do
  let selector ← .ofExcept (layout.selector key)
  .emit (.comparison key op)
  layout.operation selector op operand

/-- The fragment for equality with a value. -/
def equality (layout : Layout) (key : String) (v : Json) :
    Traced Error Fragment := do
  let selector ← .ofExcept (layout.selector key)
  let literal ← Literal.encode layout.backend v
  let selector := layout.backend.castSelector selector literal.cast
  pure ⟨selector ++ " = " ++ literal.placeholder, [literal.param]⟩

/-- The fragment for a condition on a property. -/
def property (layout : Layout) (key : String) :
    Condition → Traced Error Fragment
  | .equals v => layout.equality key v
  | .compare op operand => layout.comparison key op operand

end Layout

/-- Compiling a tree at the given depth. What is asked of a filter or a
connective is asked before its members are compiled. -/
def Interpretation.compiling (layout : Layout) :
    Interpretation (Nat → Traced Error Fragment) where
  condition key condition := fun _ => layout.property key condition
  filter clauses := fun depth => do
    .ofExcept (Layout.checkClauses depth clauses)
    let fragments ← clauses.mapM (· depth)
    Fragment.join .and fragments
  connective op parts := fun depth => do
    .emit (.connective op parts.length)
    if parts.isEmpty then .fail (.emptyConnective op)
    else
      let fragments ← parts.mapM (· (depth + 1))
      Fragment.join op fragments

namespace Layout

variable (layout : Layout)

/-- The fragment for a filter at the given depth. -/
def filter (depth : Nat) (t : Filter) : Traced Error Fragment :=
  t.interpret (.compiling layout) depth

/-- The fragment for a clause at the given depth. -/
def clause (depth : Nat) (c : Clause) : Traced Error Fragment :=
  c.interpret (.compiling layout) depth

/-- A check of clauses looks at their number. -/
theorem checkClauses_map {α β : Type} (depth : Nat) (xs : List α) (f : α → β) :
    checkClauses depth (xs.map f) = checkClauses depth xs := by
  unfold checkClauses
  rw [List.isEmpty_map]

/-- A filter checks its clauses, compiles them one after the other and
joins their fragments. -/
theorem filter_all (depth : Nat) (cs : List Clause) :
    layout.filter depth (.all cs)
      = (do
          .ofExcept (checkClauses depth cs)
          let fragments ← cs.mapM (layout.clause depth)
          Fragment.join .and fragments) := by
  rw [filter, Filter.interpret_all]
  simp only [Interpretation.compiling, checkClauses_map, List.mapM_map]
  rfl

/-- A connective does the same with its parts, one level deeper. -/
theorem clause_joined (depth : Nat) (op : Connective) (fs : List Filter) :
    layout.clause depth (.joined op fs)
      = (do
          .emit (.connective op fs.length)
          if fs.isEmpty then .fail (.emptyConnective op)
          else
            let fragments ← fs.mapM (layout.filter (depth + 1))
            Fragment.join op fragments) := by
  rw [clause, Clause.interpret_joined]
  simp only [Interpretation.compiling, List.length_map, List.isEmpty_map, List.mapM_map]
  rfl

/-- A condition is compiled alike at every depth. -/
theorem clause_property (depth : Nat) (key : String) (condition : Condition) :
    layout.clause depth (.property key condition) = layout.property key condition := by
  rw [clause, Clause.interpret_property]
  rfl

end Layout

/-! ### Writing a fragment -/

/-- A computation writes the text of a fragment and binds its
parameters, behind any that are bound already. -/
def Writes (w : Writing String) (x : Traced Error Fragment) : Prop :=
  ∀ params, w.run params = x >>= fun f => pure (f.sql, params ++ f.params)

/-- A computation writes the texts of fragments and binds their
parameters, fragment by fragment. -/
def WritesAll (w : Writing (List String)) (x : Traced Error (List Fragment)) : Prop :=
  ∀ params, w.run params
    = x >>= fun fs => pure (fs.map Fragment.sql, params ++ (fs.map Fragment.params).flatten)

namespace Writes

variable {α : Type}

/-- A failure writes nothing. -/
theorem fail (e : Error) : Writes (Writing.fail e) (.fail e) :=
  fun _ => rfl

/-- A text with one parameter. -/
theorem push (sql param : String) :
    Writes (Writing.push param >>= fun _ => pure sql) (pure ⟨sql, [param]⟩) :=
  fun _ => rfl

/-- A text with the parameters of a list. -/
theorem pushAll (sql : String) (values : List String) :
    Writes (Writing.pushAll values >>= fun _ => pure sql) (pure ⟨sql, values⟩) :=
  fun _ => rfl

/-- A step that leaves the parameters alone comes first. -/
theorem bind {x : Traced Error α} {w : α → Writing String} {y : α → Traced Error Fragment}
    (h : ∀ a, Writes (w a) (y a)) : Writes (liftM x >>= w) (x >>= y) := by
  intro params
  rw [bind_assoc, ← funext fun a => h a params]
  exact StateT.run_bind_lift x w params

/-- Texts are joined with their parameters in order. -/
theorem join (op : Connective) {w : Writing (List String)} {x : Traced Error (List Fragment)}
    (h : WritesAll w x) :
    Writes (w >>= fun texts => liftM (Fragment.joinTexts op texts))
      (x >>= Fragment.join op) := by
  intro params
  rw [StateT.run_bind, h params]
  simp only [bind_assoc, pure_bind, Fragment.join]
  rfl

/-- The fragment of a computation that starts without parameters. -/
theorem fragment_eq {w : Writing String} {x : Traced Error Fragment} (h : Writes w x) :
    w.fragment = x := by
  rw [Writing.fragment, h []]
  simp

end Writes

namespace WritesAll

/-- Parts that are written each as its fragment are written so one after
the other: the parameters of a part go behind those of the parts before
it. -/
theorem mapM {α : Type} {xs : List α} {w : α → Writing String} {x : α → Traced Error Fragment}
    (h : ∀ a ∈ xs, Writes (w a) (x a)) : WritesAll (xs.mapM w) (xs.mapM x) := by
  induction xs with
  | nil =>
      intro params
      simp
  | cons a xs ih =>
      rw [List.forall_mem_cons] at h
      intro params
      rw [List.mapM_cons, List.mapM_cons, StateT.run_bind, h.1 params]
      simp [ih h.2 _]

end WritesAll

namespace Layout

variable (layout : Layout)

/-- A comparison of a selected property, shape by shape. -/
theorem writes_operation (selector : String) (op : Comparison) (operand : Json) :
    Writes (layout.writeOperation selector op operand)
      (layout.operation selector op operand) := by
  unfold writeOperation operation
  cases op.shape with
  | textSearch => exact .bind fun literal => .push _ _
  | binary => exact .bind fun literal => .push _ _
  | list =>
      cases operand with
      | array items =>
          cases items with
          | nil => exact .fail _
          | cons v vs => exact .bind fun literals => .pushAll _ _
      | _ => exact .fail _
  | range =>
      cases operand with
      | array items =>
          match items with
          | [] | [_] | _ :: _ :: _ :: _ => exact .fail _
          | [low, high] =>
              refine .bind fun low => .bind fun high => ?_
              -- The two bounds are bound one by one.
              intro params
              rw [pure_bind, List.append_cons]
              rfl
      | _ => exact .fail _

/-- A comparison resolves its key first. -/
theorem writes_comparison (key : String) (op : Comparison) (operand : Json) :
    Writes (layout.writeComparison key op operand) (layout.comparison key op operand) :=
  .bind fun selector => .bind fun _ => layout.writes_operation selector op operand

/-- A condition on a property. -/
theorem writes_property (key : String) (condition : Condition) :
    Writes (layout.writeProperty key condition) (layout.property key condition) := by
  cases condition with
  | equals v => exact .bind fun selector => .bind fun literal => .push _ _
  | compare op operand => exact layout.writes_comparison key op operand

/-- The clauses of a filter are written one after the other. -/
theorem walkClauses_eq_mapM (depth : Nat) (cs : List Clause) :
    layout.walkClauses depth cs = cs.mapM (layout.walkClause depth) := by
  induction cs with
  | nil => rw [walkClauses, List.mapM_nil]
  | cons c cs ih => rw [walkClauses, List.mapM_cons, ih]

/-- So are the parts of a connective. -/
theorem walkFilters_eq_mapM (depth : Nat) (fs : List Filter) :
    layout.walkFilters depth fs = fs.mapM (layout.walk depth) := by
  induction fs with
  | nil => rw [walkFilters, List.mapM_nil]
  | cons f fs ih => rw [walkFilters, List.mapM_cons, ih]

/-- Walking over a filter writes its fragment. The induction is over the
tree, for every depth: a part is walked over with the parameters of the
parts before it in the list, and writes what it would write alone. -/
theorem writes_walk (depth : Nat) (t : Filter) :
    Writes (layout.walk depth t) (layout.filter depth t) := by
  revert depth
  refine Filter.induct (P := fun t => ∀ depth, Writes (layout.walk depth t) (layout.filter depth t))
    (Q := fun c => ∀ depth, Writes (layout.walkClause depth c) (layout.clause depth c)) ?_ ?_ ?_ t
  · intro cs ih depth
    rw [walk, filter_all, walkClauses_eq_mapM]
    exact .bind fun _ => .join .and (.mapM fun c hc => ih c hc depth)
  · intro op fs ih depth
    rw [walkClause, clause_joined, walkFilters_eq_mapM]
    refine .bind fun _ => ?_
    split
    · exact .fail _
    · exact .join op (.mapM fun f hf => ih f hf (depth + 1))
  · intro key condition depth
    rw [walkClause, clause_property]
    exact layout.writes_property key condition

end Layout

namespace Compiler

variable (compiler : Compiler)

/-- A filter is compiled to the fragment that its parts give. -/
theorem compile_eq (t : Filter) : compiler.compile t = compiler.layout.filter 0 t :=
  (compiler.layout.writes_walk 0 t).fragment_eq

/-- So is a single comparison, once its operator is read. -/
theorem compileComparison_eq_bind (key symbol : String) (operand : Json) :
    compiler.compileComparison key symbol operand
      = .ofExcept (Comparison.parse symbol) >>= fun op =>
          compiler.layout.comparison key op operand :=
  congrArg (Traced.ofExcept (Comparison.parse symbol) >>= ·)
    (funext fun op => (compiler.layout.writes_comparison key op operand).fragment_eq)

end Compiler

end FilterSql
