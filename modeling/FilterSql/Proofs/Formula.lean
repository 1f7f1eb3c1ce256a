import FilterSql.Proofs.Interpretation

/-!
# `FilterSql.Proofs.Formula`: boolean structure and truth

A formula is what is left of a condition when its leaves are not
looked into: conjunctions and disjunctions, one inside the other, in
order. A logic gives it a truth value. Joining one formula gives that
formula, so a chain of joins with one part each leaves no trace.

* `Formula.fold`: what leaves and joins mean, applied to a formula.
* `Logic.twoValued`, `Logic.threeValued`: the logics of conditions,
  without and with SQL's unknown.
* `Filter.eval_formula`: a filter and its formula have the same truth
  value in every logic.
-/

set_option autoImplicit false

namespace FilterSql

/-! ### Formulas -/

/-- Leaves, joined by connectives. -/
inductive Formula (β : Type) where
  | leaf (b : β)
  | joined (op : Connective) (parts : List (Formula β))

namespace Formula

variable {β γ : Type}

/-- Formulas joined by a connective; one formula stays as it is. -/
def join (op : Connective) : List (Formula β) → Formula β
  | [φ] => φ
  | φs => joined op φs

mutual

/-- What a formula means if its leaves and its joins mean this. -/
def fold (leaf : β → γ) (join : Connective → List γ → γ) : Formula β → γ
  | .leaf b => leaf b
  | .joined op φs => join op (foldAll leaf join φs)

/-- The meanings of formulas. -/
def foldAll (leaf : β → γ) (join : Connective → List γ → γ) :
    List (Formula β) → List γ
  | [] => []
  | φ :: φs => φ.fold leaf join :: foldAll leaf join φs

end

/-- The auxiliary recursion is a map. -/
theorem foldAll_eq_map (leaf : β → γ) (join : Connective → List γ → γ)
    (φs : List (Formula β)) : foldAll leaf join φs = φs.map (fold leaf join) := by
  induction φs with
  | nil => rfl
  | cons φ φs ih => rw [foldAll, ih, List.map_cons]

@[simp] theorem fold_leaf (leaf : β → γ) (join : Connective → List γ → γ) (b : β) :
    (Formula.leaf b).fold leaf join = leaf b := by
  rw [fold]

@[simp] theorem fold_joined (leaf : β → γ) (join : Connective → List γ → γ)
    (op : Connective) (φs : List (Formula β)) :
    (Formula.joined op φs).fold leaf join = join op (φs.map (fold leaf join)) := by
  rw [fold, foldAll_eq_map]

/-- A join means what its parts mean together, if a join of one part
means the same as the part. -/
theorem fold_join (leaf : β → γ) (join' : Connective → List γ → γ)
    (hone : ∀ op c, join' op [c] = c) (op : Connective) (φs : List (Formula β)) :
    (join op φs).fold leaf join' = join' op (φs.map (fold leaf join')) := by
  match φs with
  | [φ] => rw [join, List.map_singleton, hone]
  | [] => exact fold_joined leaf join' op []
  | φ :: ψ :: φs => exact fold_joined leaf join' op (φ :: ψ :: φs)

/-- The formula with something else at its leaves. -/
def map (f : β → γ) : Formula β → Formula γ :=
  fold (fun b => leaf (f b)) joined

/-- A join with something else at its leaves. -/
theorem map_join (f : β → γ) (op : Connective) (φs : List (Formula β)) :
    (join op φs).map f = join op (φs.map (map f)) := by
  -- `join` looks for a list of one, so the other two kinds are kept apart.
  match φs with
  | [φ] => rfl
  | [] => exact fold_joined _ _ op []
  | φ :: ψ :: φs => exact fold_joined _ _ op (φ :: ψ :: φs)

end Formula

/-! ### Logics -/

/-- Truth values that can be joined. Joining nothing is neutral. -/
structure Logic (α : Type) where
  yes : α
  no : α
  and : α → α → α
  or : α → α → α
  and_yes : ∀ a, and a yes = a
  or_no : ∀ a, or a no = a

namespace Logic

variable {α : Type}

/-- Truth values joined by a connective. -/
def joinAll (logic : Logic α) : Connective → List α → α
  | .and, as => as.foldr logic.and logic.yes
  | .or, as => as.foldr logic.or logic.no

/-- Joining one truth value changes nothing. -/
theorem joinAll_singleton (logic : Logic α) (op : Connective) (a : α) :
    logic.joinAll op [a] = a := by
  cases op with
  | and => exact logic.and_yes a
  | or => exact logic.or_no a

/-- True and false. -/
def twoValued : Logic Bool where
  yes := true
  no := false
  and := Bool.and
  or := Bool.or
  and_yes := Bool.and_true
  or_no := Bool.or_false

end Logic

/-- The truth values of SQL. A comparison with a missing value is
unknown. -/
inductive Truth where
  | no
  | unknown
  | yes
deriving DecidableEq

namespace Truth

/-- SQL's conjunction: false if one side is, else unknown if one side
is. -/
def and : Truth → Truth → Truth
  | no, _ => no
  | _, no => no
  | unknown, _ => unknown
  | _, unknown => unknown
  | yes, yes => yes

/-- SQL's disjunction: true if one side is, else unknown if one side
is. -/
def or : Truth → Truth → Truth
  | yes, _ => yes
  | _, yes => yes
  | unknown, _ => unknown
  | _, unknown => unknown
  | no, no => no

end Truth

/-- True, false and unknown. -/
def Logic.threeValued : Logic Truth where
  yes := .yes
  no := .no
  and := Truth.and
  or := Truth.or
  and_yes a := by cases a <;> rfl
  or_no a := by cases a <;> rfl

/-! ### Truth of formulas and filters -/

/-- The truth value of a formula whose leaves have these. -/
def Formula.eval {α β : Type} (logic : Logic α) (v : β → α) : Formula β → α :=
  fold v logic.joinAll

namespace Filter

variable {α β γ : Type}

/-- The boolean structure of a filter: a filter is the conjunction of
its clauses, a connective joins its parts. -/
def formula (leaf : String → Condition → β) (t : Filter) : Formula β :=
  t.interpret (.joining (fun key condition => .leaf (leaf key condition)) Formula.join)

/-- The truth value of a filter whose conditions have these. -/
def eval (logic : Logic α) (v : String → Condition → α) (t : Filter) : α :=
  t.interpret (.joining v logic.joinAll)

/-- A map from its values one by one. -/
private theorem map_eq_of_forall₂ {f : β → γ} {bs : List β} {cs : List γ}
    (h : List.Forall₂ (fun b c => f b = c) bs cs) : bs.map f = cs :=
  (map_eq_map_of_forall₂ h).trans (List.map_id cs)

/-- A filter and its formula have the same truth value. Its joins with
one part, which the formula leaves out, do not change it. -/
theorem eval_formula (logic : Logic α) (v : β → α) (leaf : String → Condition → β)
    (t : Filter) (hfull : t.isFull = true) :
    (t.formula leaf).eval logic v
      = t.eval logic fun key condition => v (leaf key condition) := by
  refine Filter.interpret_rel (R := fun φ a => Formula.eval logic v φ = a) ?_ t ?_ hfull
  · intro op φs as _ h
    rw [← map_eq_of_forall₂ h]
    exact Formula.fold_join v logic.joinAll logic.joinAll_singleton op φs
  · intro p _
    exact Formula.fold_leaf v logic.joinAll (leaf p.1 p.2)

/-- Something else at the leaves of a filter's formula. -/
theorem map_formula (f : β → γ) (leaf : String → Condition → β) (t : Filter)
    (hfull : t.isFull = true) :
    (t.formula leaf).map f = t.formula fun key condition => f (leaf key condition) := by
  refine Filter.interpret_rel (R := fun φ ψ => Formula.map f φ = ψ) ?_ t ?_ hfull
  · intro op φs ψs _ h
    rw [← map_eq_of_forall₂ h]
    exact Formula.map_join f op φs
  · intro p _
    exact Formula.fold_leaf _ _ (leaf p.1 p.2)

end Filter

end FilterSql
