import FilterSql.Filter.Basic
import Mathlib.Data.List.Forall2

/-!
# `FilterSql.Proofs.Interpretation`: meanings of filters, put together bottom up

Much of what is said about a filter is put together the same way: what
a condition means, what a filter means whose clauses mean this, and
what a connective means whose parts mean that. An `Interpretation`
holds these three, and `Filter.interpret` applies them to a whole tree.
The text of a filter, its parameters, its defects and its truth value
are interpretations.

* `Filter.induct`: induction over filters and clauses, with the
  hypothesis at every member of a list.
* `Filter.interpret_rel`: two interpretations of a tree are related if
  their conditions are, and if joining related lists gives related
  results. Empty lists may be left out for trees that hold none.
* `Filter.Matches.interpret`: the same for two trees that differ in
  their conditions only.
-/

set_option autoImplicit false

namespace FilterSql

/-! ### Induction -/

mutual

/-- Induction over filters. -/
theorem Filter.induct {P : Filter → Prop} {Q : Clause → Prop}
    (all : ∀ cs, (∀ c ∈ cs, Q c) → P (.all cs))
    (joined : ∀ op fs, (∀ f ∈ fs, P f) → Q (.joined op fs))
    (property : ∀ key condition, Q (.property key condition)) : ∀ t, P t
  | .all cs => all cs (Clause.induct_list all joined property cs)

/-- Induction over clauses. -/
theorem Clause.induct {P : Filter → Prop} {Q : Clause → Prop}
    (all : ∀ cs, (∀ c ∈ cs, Q c) → P (.all cs))
    (joined : ∀ op fs, (∀ f ∈ fs, P f) → Q (.joined op fs))
    (property : ∀ key condition, Q (.property key condition)) : ∀ c, Q c
  | .property key condition => property key condition
  | .joined op fs => joined op fs (Filter.induct_list all joined property fs)

/-- Companion for the clauses of a filter. -/
theorem Clause.induct_list {P : Filter → Prop} {Q : Clause → Prop}
    (all : ∀ cs, (∀ c ∈ cs, Q c) → P (.all cs))
    (joined : ∀ op fs, (∀ f ∈ fs, P f) → Q (.joined op fs))
    (property : ∀ key condition, Q (.property key condition)) :
    ∀ (cs : List Clause), ∀ c ∈ cs, Q c
  | [] => by simp
  | c :: cs => List.forall_mem_cons.mpr
      ⟨Clause.induct all joined property c, Clause.induct_list all joined property cs⟩

/-- Companion for the parts of a connective. -/
theorem Filter.induct_list {P : Filter → Prop} {Q : Clause → Prop}
    (all : ∀ cs, (∀ c ∈ cs, Q c) → P (.all cs))
    (joined : ∀ op fs, (∀ f ∈ fs, P f) → Q (.joined op fs))
    (property : ∀ key condition, Q (.property key condition)) :
    ∀ (fs : List Filter), ∀ f ∈ fs, P f
  | [] => by simp
  | f :: fs => List.forall_mem_cons.mpr
      ⟨Filter.induct all joined property f, Filter.induct_list all joined property fs⟩

end

/-! ### Interpretations -/

/-- What conditions, filters and connectives mean. -/
structure Interpretation (β : Type) where
  /-- The meaning of a condition on the property `key`. -/
  condition : (key : String) → Condition → β
  /-- The meaning of a filter, from the meanings of its clauses. -/
  filter : List β → β
  /-- The meaning of a connective, from the meanings of its parts. -/
  connective : Connective → List β → β

/-- Filters that join their clauses as a conjunction joins its parts. -/
def Interpretation.joining {β : Type} (condition : String → Condition → β)
    (join : Connective → List β → β) : Interpretation β where
  condition
  filter := join .and
  connective := join

/-- Lists whose members have the same images have the same images. -/
theorem map_eq_map_of_forall₂ {α β γ : Type} {f : α → γ} {g : β → γ} {as : List α}
    {bs : List β} (h : List.Forall₂ (fun a b => f a = g b) as bs) : as.map f = bs.map g := by
  rw [← List.forall₂_eq_eq_eq, List.forall₂_map_left_iff, List.forall₂_map_right_iff]
  exact h

section
variable {β γ : Type}

mutual

/-- The meaning of a filter. -/
def Filter.interpret (I : Interpretation β) : Filter → β
  | .all cs => I.filter (Clause.interpretAll I cs)

/-- The meaning of a clause. -/
def Clause.interpret (I : Interpretation β) : Clause → β
  | .property key condition => I.condition key condition
  | .joined op fs => I.connective op (Filter.interpretAll I fs)

/-- The meanings of clauses. -/
def Clause.interpretAll (I : Interpretation β) : List Clause → List β
  | [] => []
  | c :: cs => c.interpret I :: Clause.interpretAll I cs

/-- The meanings of filters. -/
def Filter.interpretAll (I : Interpretation β) : List Filter → List β
  | [] => []
  | f :: fs => f.interpret I :: Filter.interpretAll I fs

end

/-- Clauses are interpreted one by one. -/
theorem Clause.interpretAll_eq_map (I : Interpretation β) (cs : List Clause) :
    Clause.interpretAll I cs = cs.map (Clause.interpret I) := by
  induction cs with
  | nil => rfl
  | cons c cs ih => rw [Clause.interpretAll, ih, List.map_cons]

/-- And so are filters. -/
theorem Filter.interpretAll_eq_map (I : Interpretation β) (fs : List Filter) :
    Filter.interpretAll I fs = fs.map (Filter.interpret I) := by
  induction fs with
  | nil => rfl
  | cons f fs ih => rw [Filter.interpretAll, ih, List.map_cons]

/-- A filter comes to what its clauses come to together. -/
@[simp] theorem Filter.interpret_all (I : Interpretation β) (cs : List Clause) :
    (Filter.all cs).interpret I = I.filter (cs.map (Clause.interpret I)) := by
  rw [Filter.interpret, Clause.interpretAll_eq_map]

/-- A property comes to what its condition comes to. -/
@[simp] theorem Clause.interpret_property (I : Interpretation β) (key : String)
    (condition : Condition) :
    (Clause.property key condition).interpret I = I.condition key condition := by
  rw [Clause.interpret]

/-- A join comes to what its parts come to together. -/
@[simp] theorem Clause.interpret_joined (I : Interpretation β) (op : Connective)
    (fs : List Filter) :
    (Clause.joined op fs).interpret I = I.connective op (fs.map (Filter.interpret I)) := by
  rw [Clause.interpret, Filter.interpretAll_eq_map]

end

/-! ### The conditions of a filter, and its empty lists -/

/-- The conditions of a tree, from left to right. -/
def Interpretation.properties : Interpretation (List (String × Condition)) :=
  .joining (fun key condition => [(key, condition)]) fun _ lists => lists.flatten

/-- Whether every list of clauses or parts in a tree has a member. -/
def Interpretation.full : Interpretation Bool :=
  .joining (fun _ _ => true) fun _ parts => !parts.isEmpty && parts.all id

/-- The conditions of a filter, from left to right. -/
def Filter.properties (t : Filter) : List (String × Condition) :=
  t.interpret .properties

/-- No filter in the tree lacks clauses and no connective lacks parts. -/
def Filter.isFull (t : Filter) : Bool :=
  t.interpret .full

section
variable {β γ : Type}

/-- Joining the interpretations of the members of a list that has some
and whose members are full. -/
private theorem rel_joined {α : Type} {R : β → γ → Prop}
    {join : Connective → List β → β} {join' : Connective → List γ → γ}
    (hjoin : ∀ op bs cs, bs ≠ [] → List.Forall₂ R bs cs → R (join op bs) (join' op cs))
    {f : α → β} {g : α → γ} {props : α → List (String × Condition)} {full : α → Bool}
    {P : String × Condition → Prop} (op : Connective) (xs : List α)
    (ih : ∀ x ∈ xs, (∀ p ∈ props x, P p) → full x = true → R (f x) (g x))
    (hprops : ∀ p ∈ (xs.map props).flatten, P p)
    (hfull : (!(xs.map full).isEmpty && (xs.map full).all id) = true) :
    R (join op (xs.map f)) (join' op (xs.map g)) := by
  simp only [Bool.and_eq_true, Bool.not_eq_true', List.isEmpty_eq_false_iff, ne_eq,
    List.map_eq_nil_iff, List.all_map, List.all_eq_true, Function.comp_apply, id] at hfull
  obtain ⟨hne, hall⟩ := hfull
  refine hjoin op _ _ (by simpa using hne) ?_
  rw [List.forall₂_map_left_iff, List.forall₂_map_right_iff, List.forall₂_same]
  intro x hx
  refine ih x hx (fun p hp => hprops p ?_) (hall x hx)
  exact List.mem_flatten.mpr ⟨props x, List.mem_map_of_mem hx, hp⟩

/-- Two interpretations of a full tree are related if its conditions
are, and if joining keeps lists related. -/
theorem Filter.interpret_rel {R : β → γ → Prop}
    {leaf : String → Condition → β} {leaf' : String → Condition → γ}
    {join : Connective → List β → β} {join' : Connective → List γ → γ}
    (hjoin : ∀ op bs cs, bs ≠ [] → List.Forall₂ R bs cs → R (join op bs) (join' op cs))
    (t : Filter) (hleaf : ∀ p ∈ t.properties, R (leaf p.1 p.2) (leaf' p.1 p.2))
    (hfull : t.isFull = true) :
    R (t.interpret (.joining leaf join)) (t.interpret (.joining leaf' join')) := by
  -- Clauses need the same statement, so both are proved in one induction.
  revert hleaf hfull
  refine Filter.induct (P := fun t => (∀ p ∈ t.properties, R (leaf p.1 p.2) (leaf' p.1 p.2)) →
      t.isFull = true →
      R (t.interpret (.joining leaf join)) (t.interpret (.joining leaf' join')))
    (Q := fun c => (∀ p ∈ c.interpret .properties, R (leaf p.1 p.2) (leaf' p.1 p.2)) →
      c.interpret .full = true →
      R (c.interpret (.joining leaf join)) (c.interpret (.joining leaf' join')))
    ?_ ?_ ?_ t
  · intro cs ih hprops hfull
    rw [Filter.interpret_all, Filter.interpret_all]
    rw [Filter.properties, Filter.interpret_all] at hprops
    rw [Filter.isFull, Filter.interpret_all] at hfull
    exact rel_joined hjoin .and cs ih hprops hfull
  · intro op fs ih hprops hfull
    rw [Clause.interpret_joined, Clause.interpret_joined]
    rw [Clause.interpret_joined] at hprops hfull
    exact rel_joined hjoin op fs ih hprops hfull
  · intro key condition hprops _
    rw [Clause.interpret_property, Clause.interpret_property]
    rw [Clause.interpret_property] at hprops
    exact hprops (key, condition) (List.mem_singleton_self _)

/-- Two interpretations that join alike differ on a tree only if they
differ on one of its conditions. -/
theorem Filter.interpret_congr {I J : Interpretation β} (hfilter : I.filter = J.filter)
    (hconnective : I.connective = J.connective) (t : Filter)
    (h : ∀ p ∈ t.properties, I.condition p.1 p.2 = J.condition p.1 p.2) :
    t.interpret I = t.interpret J := by
  revert h
  refine Filter.induct
    (P := fun t => (∀ p ∈ t.properties, I.condition p.1 p.2 = J.condition p.1 p.2) →
      t.interpret I = t.interpret J)
    (Q := fun c => (∀ p ∈ c.interpret .properties, I.condition p.1 p.2 = J.condition p.1 p.2) →
      c.interpret I = c.interpret J) ?_ ?_ ?_ t
  · intro cs ih h
    rw [Filter.properties, Filter.interpret_all] at h
    rw [Filter.interpret_all, Filter.interpret_all, hfilter]
    refine congrArg J.filter (List.map_congr_left fun c hc => ih c hc fun p hp => h p ?_)
    exact List.mem_flatten_of_mem (List.mem_map_of_mem hc) hp
  · intro op fs ih h
    rw [Clause.interpret_joined] at h
    rw [Clause.interpret_joined, Clause.interpret_joined, hconnective]
    refine congrArg (J.connective op) (List.map_congr_left fun f hf => ih f hf fun p hp => h p ?_)
    exact List.mem_flatten_of_mem (List.mem_map_of_mem hf) hp
  · intro key condition h
    rw [Clause.interpret_property] at h
    rw [Clause.interpret_property, Clause.interpret_property]
    exact h (key, condition) (List.mem_singleton_self _)

end

/-! ### Trees that differ in their conditions -/

mutual

/-- Two filters that differ in their conditions only, and there by
`R`. -/
inductive Filter.Matches (R : Condition → Condition → Prop) : Filter → Filter → Prop where
  | all {cs ds : List Clause} (clauses : List.Forall₂ (Clause.Matches R) cs ds) :
    Filter.Matches R (.all cs) (.all ds)

/-- Two clauses that differ in their conditions only, and there by
`R`. -/
inductive Clause.Matches (R : Condition → Condition → Prop) : Clause → Clause → Prop where
  | joined (op : Connective) {fs gs : List Filter}
    (parts : List.Forall₂ (Filter.Matches R) fs gs) :
    Clause.Matches R (.joined op fs) (.joined op gs)
  | property (key : String) {c d : Condition} (condition : R c d) :
    Clause.Matches R (.property key c) (.property key d)

end

section
variable {β γ : Type} {R : Condition → Condition → Prop} {S : β → γ → Prop}

/-- Lists of related members are sent to lists of related members, if
this is known for the members of the first. -/
private theorem forall₂_map_of_mem {α α' : Type} {T : α → α' → Prop} {f : α → β}
    {g : α' → γ} {xs : List α} {ys : List α'} (h : List.Forall₂ T xs ys)
    (ih : ∀ x ∈ xs, ∀ y, T x y → S (f x) (g y)) :
    List.Forall₂ S (xs.map f) (ys.map g) := by
  induction h with
  | nil => exact .nil
  | cons hhead _ htail =>
      rw [List.forall_mem_cons] at ih
      exact .cons (ih.1 _ hhead) (htail ih.2)

/-- Interpretations of trees that differ in their conditions are
related if those of the conditions are, and if joining keeps lists
related. -/
theorem Filter.Matches.interpret {I : Interpretation β} {J : Interpretation γ}
    (hcondition : ∀ key c d, R c d → S (I.condition key c) (J.condition key d))
    (hfilter : ∀ bs cs, List.Forall₂ S bs cs → S (I.filter bs) (J.filter cs))
    (hconnective : ∀ op bs cs, List.Forall₂ S bs cs →
      S (I.connective op bs) (J.connective op cs))
    {t u : Filter} (h : t.Matches R u) : S (t.interpret I) (u.interpret J) := by
  revert u h
  -- The induction is on the first tree; the second follows it constructor by constructor.
  refine Filter.induct (P := fun t => ∀ {u}, t.Matches R u → S (t.interpret I) (u.interpret J))
    (Q := fun c => ∀ d, c.Matches R d → S (c.interpret I) (d.interpret J)) ?_ ?_ ?_ t
  · intro cs ih u h
    cases h with
    | all hclauses =>
        rw [Filter.interpret_all, Filter.interpret_all]
        exact hfilter _ _ (forall₂_map_of_mem hclauses ih)
  · intro op fs ih d h
    cases h with
    | joined _ hparts =>
        rw [Clause.interpret_joined, Clause.interpret_joined]
        exact hconnective op _ _ (forall₂_map_of_mem hparts fun f hf g => ih f hf)
  · intro key c d h
    cases h with
    | property _ hcd =>
        rw [Clause.interpret_property, Clause.interpret_property]
        exact hcondition key _ _ hcd

end

end FilterSql
