import FilterSql.Proofs.Placeholders
import FilterSql.Proofs.Reading

/-!
# `FilterSql.Proofs.Blame`: the compiler breaks no promise

Three branches of the compiler report a broken promise of its own: a
join of nothing, a join of a condition without text, and a count of
placeholders that is not the count of parameters. None of them is ever
reached, and a checked layout is never at fault either. Whatever fails
fails because of its input.

`Traced.Blameless` says so about one computation, and every way to put
computations together keeps it. A step may rely on the result of the
step before it: a join is blameless because the fragments that it is
given come from clauses without defects.

* `Traced.Blameless.bind`: a sequence of blameless steps.
* `Filter.blamesInput_ofJson`, `Filter.blamesInput_ofText`: reading.
* `Layout.blameless_filter`: compiling.
-/

set_option autoImplicit false

namespace FilterSql

/-! ### Whose fault it is -/

section
variable {α β : Type}

/-- An error is the fault of the input, not of the compiler and not of
the layout. -/
def Error.IsInputs (e : Error) : Prop :=
  e.isInternal = false ∧ e.kind ≠ .configuration

/-- A failure is the fault of the input. -/
abbrev BlamesInput (x : Except Error α) : Prop :=
  FailsOnly Error.IsInputs x

/-- A computation that blames its input if it fails, and that never
logs a broken promise. -/
structure Traced.Blameless (x : Traced Error α) : Prop where
  outcome : BlamesInput x.outcome
  events : ∀ text, .invariantViolated text ∉ x.events

namespace Traced.Blameless

/-- A result by itself blames nobody. -/
theorem pure (a : α) : (Pure.pure a : Traced Error α).Blameless where
  outcome := .ok a
  events _ := List.not_mem_nil

/-- A plain outcome blames whom its error blames. -/
theorem ofExcept {x : Except Error α} (h : BlamesInput x) : (ofExcept x).Blameless where
  outcome := h
  events _ := List.not_mem_nil

/-- Giving up because of the input is in order. -/
theorem fail {e : Error} (h : e.IsInputs) : (fail e : Traced Error α).Blameless where
  outcome := .error h
  events _ := List.not_mem_nil

/-- So is an event, unless it reports a broken promise. -/
theorem emit {event : Event} (h : ∀ text, event ≠ .invariantViolated text) :
    (emit event : Traced Error Unit).Blameless where
  outcome := .ok ()
  events text hmem := h text (List.mem_singleton.mp hmem).symm

/-- The second step is only asked about results that the first gives. -/
theorem bind {x : Traced Error α} {f : α → Traced Error β} (hx : x.Blameless)
    (hf : ∀ a, x.outcome = .ok a → (f a).Blameless) : (x >>= f).Blameless := by
  obtain ⟨events, e | a⟩ := x
  · exact ⟨.error (hx.outcome e rfl), hx.events⟩
  · have ha := hf a rfl
    refine ⟨ha.outcome, ?_⟩
    intro text hmem
    rcases List.mem_append.mp hmem with hmem | hmem
    · exact hx.events text hmem
    · exact ha.events text hmem

/-- The members of a list, one after the other. -/
theorem mapM {xs : List α} {f : α → Traced Error β} (h : ∀ x ∈ xs, (f x).Blameless) :
    (xs.mapM f).Blameless := by
  induction xs with
  | nil => exact .pure []
  | cons x xs ih =>
      rw [List.forall_mem_cons] at h
      rw [List.mapM_cons]
      exact .bind h.1 fun y _ => .bind (ih h.2) fun ys _ => .pure (y :: ys)

end Traced.Blameless

end

/-! ### Reading -/

/-- Whatever is met in reading is the input's fault. -/
theorem Error.MetReading.isInputs {nesting : Nat} (e : Error) (h : e.MetReading nesting) :
    e.IsInputs := by
  cases h with
  | fault hconcerns =>
      cases e with
      | layout | internal => cases hconcerns
      | _ => exact ⟨rfl, nofun⟩
  | depth => exact ⟨rfl, nofun⟩

namespace Filter

/-- No value is read with a fault of the compiler's. -/
theorem blamesInput_ofJson (v : Json) : BlamesInput (ofJson v) :=
  (failsOnly_ofJson v).mono Error.MetReading.isInputs

/-- No text is read with a fault of the compiler's. -/
theorem blamesInput_ofText (text : String) : BlamesInput (ofText text) := by
  unfold ofText
  split
  · exact .error ⟨rfl, nofun⟩
  · split
    · exact .ok none
    · split
      · exact .error ⟨rfl, nofun⟩
      · exact .ok none
      · exact (blamesInput_ofJson _).bind fun filter => .ok _

end Filter

/-! ### Compiling -/

namespace Literal

/-- A literal that cannot be bound is the input's fault. -/
theorem blamesInput_dateParam (fields : Json.Fields) : BlamesInput (dateParam fields) := by
  unfold dateParam
  split
  · exact .error ⟨rfl, nofun⟩
  · exact .error ⟨rfl, nofun⟩
  · split
    · exact .error ⟨rfl, nofun⟩
    · exact .ok _
  · exact .ok _

/-- Values that cannot be bound are the input's fault. -/
theorem blameless_encode (backend : Sql.Backend) (v : Json) :
    (encode backend v).Blameless := by
  unfold encode
  split
  · exact .fail ⟨rfl, nofun⟩
  · exact .pure _
  · split
    · exact .pure _
    · exact .fail ⟨rfl, nofun⟩
  · split
    · exact .fail ⟨rfl, nofun⟩
    · exact .bind (.emit (by rintro _ ⟨⟩)) fun _ _ => .pure _
  · exact .fail ⟨rfl, nofun⟩
  · split
    · exact .bind (.ofExcept (blamesInput_dateParam _)) fun text _ => .pure _
    · exact .fail ⟨rfl, nofun⟩

/-- The same for several values. -/
theorem blameless_encodeAll (backend : Sql.Backend) (vs : List Json) :
    (encodeAll backend vs).Blameless := by
  rw [encodeAll_eq_mapM]
  exact .mapM fun v _ => blameless_encode backend v

end Literal

namespace Layout

/-- A property that names no column and no path is the input's fault. -/
theorem blamesInput_selector (layout : Layout) (key : String) :
    BlamesInput (layout.selector key) := by
  unfold selector
  split
  · exact .ok _
  · split
    · exact .ok _
    · exact .error ⟨rfl, nofun⟩

/-- A comparison of a selected property, shape by shape. -/
theorem blameless_operation (layout : Layout) (selector : String) (op : Comparison)
    (operand : Json) : (layout.operation selector op operand).Blameless := by
  have hencode := Literal.blameless_encode layout.backend
  unfold operation
  cases op.shape with
  | textSearch => exact .bind (hencode operand) fun l _ => .pure _
  | binary => exact .bind (hencode operand) fun l _ => .pure _
  | range =>
      dsimp only
      split
      · exact .bind (hencode _) fun low _ => .bind (hencode _) fun high _ => .pure _
      · exact .fail ⟨rfl, nofun⟩
      · exact .fail ⟨rfl, nofun⟩
  | list =>
      dsimp only
      split
      · exact .fail ⟨rfl, nofun⟩
      · exact .bind (Literal.blameless_encodeAll layout.backend _) fun ls _ => .pure _
      · exact .fail ⟨rfl, nofun⟩

/-- A comparison fails because of its key or its operand. -/
theorem blameless_comparison (layout : Layout) (key : String) (op : Comparison)
    (operand : Json) : (layout.comparison key op operand).Blameless :=
  .bind (.ofExcept (layout.blamesInput_selector key)) fun selector _ =>
    .bind (.emit (by rintro _ ⟨⟩)) fun _ _ => layout.blameless_operation selector op operand

/-- A property fails because of its comparison. -/
theorem blameless_property (layout : Layout) (key : String) (condition : Condition) :
    (layout.property key condition).Blameless := by
  cases condition with
  | equals v =>
      exact .bind (.ofExcept (layout.blamesInput_selector key)) fun selector _ =>
        .bind (Literal.blameless_encode layout.backend v) fun l _ => .pure _
  | compare op operand => exact layout.blameless_comparison key op operand

/-- A filter that is empty or nested too deep is the input's fault. -/
theorem blamesInput_checkClauses {α : Type} (depth : Nat) (cs : List α) :
    BlamesInput (checkClauses depth cs) := by
  unfold checkClauses
  split
  · exact .error ⟨rfl, nofun⟩
  · split
    · exact .error ⟨rfl, nofun⟩
    · exact .ok ()

/-- Members of a list that has some are compiled and joined. A join is
reached without defects only, and then the fragments can be joined. -/
private theorem blameless_mapM_join {α : Type} (op : Connective) {xs : List α}
    {run : α → Traced Error Fragment} {defects : α → List Error} {render : α → Fragment}
    (hne : xs ≠ []) (hblameless : ∀ x ∈ xs, (run x).Blameless)
    (hrun : ∀ x ∈ xs, (run x).outcome = report (defects x) (render x))
    (htexts : ∀ x ∈ xs, defects x = [] → (render x).sql ≠ "") :
    (xs.mapM run >>= Fragment.join op).Blameless := by
  refine .bind (.mapM hblameless) fun fragments h => ?_
  rw [Traced.outcome_mapM hrun, report_eq_ok_iff, List.flatMap_eq_nil_iff] at h
  obtain ⟨hdefects, rfl⟩ := h
  rw [Fragment.join_eq_pure op _ (by simpa using hne)
    (List.forall_mem_map.mpr fun x hx => htexts x hx (hdefects x hx))]
  exact .pure _

/-- Compiling breaks no promise, at any depth. The clauses of a filter
are compiled before they are joined, and what is known about their
outcome is what the join relies on. -/
theorem blameless_filter (layout : Layout) (depth : Nat) (t : Filter) :
    (layout.filter depth t).Blameless := by
  revert depth
  refine Filter.induct (P := fun t => ∀ depth, (layout.filter depth t).Blameless)
    (Q := fun c => ∀ depth, (layout.clause depth c).Blameless) ?_ ?_ ?_ t
  · intro cs ih depth
    rw [filter_all]
    refine .bind (.ofExcept (blamesInput_checkClauses depth cs)) fun _ hchecked => ?_
    refine blameless_mapM_join .and ?_ (fun c hc => ih c hc depth)
      (fun c _ => (layout.rendersClause c).outcome depth)
      fun c _ => (layout.rendersClause c).text depth
    -- A filter without clauses has not passed the check.
    rintro rfl
    simp only [checkClauses, Traced.outcome_ofExcept, List.isEmpty_nil, if_true] at hchecked
    split at hchecked
    · cases hchecked
    · cases hchecked
  · intro op fs ih depth
    rw [clause_joined]
    refine .bind (.emit (by rintro _ ⟨⟩)) fun _ _ => ?_
    split
    · exact .fail ⟨rfl, nofun⟩
    · rename_i hfs
      exact blameless_mapM_join op (by simpa using hfs) (fun f hf => ih f hf (depth + 1))
        (fun f _ => (layout.rendersFilter f).outcome (depth + 1))
        fun f _ => (layout.rendersFilter f).text (depth + 1)
  · intro key condition depth
    rw [clause_property]
    exact layout.blameless_property key condition

end Layout

namespace Compiler

variable (compiler : Compiler)

/-- Compiling a filter breaks no promise. -/
theorem blameless_compile (t : Filter) : (compiler.compile t).Blameless := by
  rw [compile_eq]
  exact compiler.layout.blameless_filter 0 t

/-- Building a clause breaks no promise. The count of placeholders is
checked for fragments that come out of the compiler only. -/
theorem blameless_build (filter : Option Filter) : (compiler.build filter).Blameless := by
  cases filter with
  | none => exact .pure _
  | some t =>
      rw [build]
      split
      · exact .pure _
      · refine .bind (compiler.blameless_compile t) fun fragment h => ?_
        -- The check is passed by everything that compiling gives.
        rw [compiler.checkParity_eq_pure h, pure_bind]
        exact .bind (.emit (by rintro _ ⟨⟩)) fun _ _ => .pure _

/-- The compiler never breaks a promise of its own, and a checked
layout is never at fault: whatever is built or compiled, an error is
neither internal nor one of the layout, and no broken promise is
logged. A filter that asks something is built exactly if it is
compiled, as the compiled text behind `WHERE`, with its parameters. -/
theorem only_input_is_blamed :
    (∀ filter, (compiler.build filter).Blameless) ∧
    (∀ v, (compiler.buildJson v).Blameless) ∧
    (∀ text, (compiler.buildText text).Blameless) ∧
    (∀ t, (compiler.compile t).Blameless) ∧
    (∀ key symbol operand, (compiler.compileComparison key symbol operand).Blameless) ∧
    ∀ t, t.isEmpty = false →
      (∀ e, (compiler.compile t).outcome = .error e →
        (compiler.build (some t)).outcome = .error e) ∧
      ∀ fragment, (compiler.compile t).outcome = .ok fragment →
        (compiler.build (some t)).outcome
          = .ok ⟨"WHERE " ++ fragment.sql, fragment.params⟩ := by
  refine ⟨compiler.blameless_build, ?_, ?_, compiler.blameless_compile, ?_, ?_⟩
  · intro v
    unfold buildJson
    split
    · exact .pure _
    · exact .pure _
    · exact .bind (.ofExcept (Filter.blamesInput_ofJson _)) fun t _ =>
        compiler.blameless_build (some t)
  · intro text
    exact .bind (.ofExcept (Filter.blamesInput_ofText text)) fun filter _ =>
      compiler.blameless_build filter
  · intro key symbol operand
    rw [compileComparison_eq_bind]
    have hparse := (Comparison.failsOnly_parse symbol 0).mono Error.MetReading.isInputs
    exact .bind (.ofExcept hparse) fun op _ => compiler.layout.blameless_comparison key op operand
  · intro t hne
    rw [compiler.build_outcome hne]
    constructor
    · intro e h
      rw [h]
      rfl
    · intro fragment h
      rw [h]
      rfl

/-- A filter for columns with awkward names is built as it is compiled,
and a connective without parts is the filter's own fault. -/
theorem only_input_is_blamed_awkward :
    (∃ fragment, (awkward.compile awkwardFilter).outcome = .ok fragment ∧
      (awkward.build (some awkwardFilter)).outcome
        = .ok ⟨"WHERE " ++ fragment.sql, fragment.params⟩) ∧
    (awkward.build (some (.all [.joined .or []]))).outcome = .error (.emptyConnective .or) ∧
    (awkward.build (some (.all [.joined .or []]))).Blameless := by
  obtain ⟨hbuild, -, -, -, -, hprefixed⟩ := awkward.only_input_is_blamed
  obtain ⟨fragment, hcompile⟩ :
      ∃ fragment, (awkward.compile awkwardFilter).outcome = .ok fragment := ⟨_, rfl⟩
  exact ⟨⟨fragment, hcompile, (hprefixed awkwardFilter rfl).2 fragment hcompile⟩,
    (hprefixed (.all [.joined .or []]) rfl).1 _ rfl, hbuild _⟩

end Compiler

end FilterSql
