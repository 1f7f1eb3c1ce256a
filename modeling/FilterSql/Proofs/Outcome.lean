import FilterSql.Compiler

/-!
# `FilterSql.Proofs.Outcome`: what comes of a computation, without its events

`Traced.outcome` forgets the events of a computation and keeps its
order: the outcome of a sequence is the sequence of the outcomes. The
functions of the compiler are therefore read here as plain `Except`
computations.

`report es a` is the outcome of a computation that meets the defects
`es` on its way to the result `a`. The first defect decides, so two
such computations in sequence append their lists (`report_bind`).

* `Traced.outcome_bind`: the outcome of a sequence.
* `report_bind`: the defects of a sequence are met in order.
* `Traced.outcome_mapM`: so are those of the members of a list.
* `report_eq_ok_iff`: success is the absence of defects.
-/

set_option autoImplicit false

namespace FilterSql

namespace Traced

variable {ε α β : Type}

@[simp] theorem outcome_pure (a : α) : (pure a : Traced ε α).outcome = .ok a := rfl

@[simp] theorem outcome_fail (e : ε) : (fail e : Traced ε α).outcome = .error e := rfl

@[simp] theorem outcome_emit (event : Event) :
    (emit event : Traced ε Unit).outcome = .ok () := rfl

@[simp] theorem outcome_ofExcept (x : Except ε α) : (ofExcept x).outcome = x := rfl

/-- The outcome of a sequence is the sequence of the outcomes. -/
@[simp] theorem outcome_bind (x : Traced ε α) (f : α → Traced ε β) :
    (x >>= f).outcome = x.outcome >>= fun a => (f a).outcome := by
  rcases x with ⟨events, e | a⟩
  · rfl
  · rfl

end Traced

section
variable {ε α β : Type}

@[simp] theorem except_ok_bind (a : α) (f : α → Except ε β) :
    (Except.ok a >>= f) = f a := rfl

@[simp] theorem except_error_bind (e : ε) (f : α → Except ε β) :
    (Except.error e >>= f) = .error e := rfl

/-- A success, from a test of what is in it. -/
theorem exists_of_toOption_map {x : Except ε α} {f : α → β} {b : β}
    (h : x.toOption.map f = some b) : ∃ a, x = .ok a ∧ f a = b := by
  cases x with
  | error e => cases h
  | ok a => exact ⟨a, rfl, Option.some.inj h⟩

/-- A sequence succeeds if both of its parts do. -/
theorem except_bind_eq_ok_iff {x : Except ε α} {f : α → Except ε β} {b : β} :
    (x >>= f) = .ok b ↔ ∃ a, x = .ok a ∧ f a = .ok b := by
  cases x with
  | error e => simp
  | ok a => simp

end

/-! ### The first defect decides -/

section
variable {α β : Type}

/-- The outcome of a computation that meets `defects` on its way to
the result `a`. -/
def report (defects : List Error) (a : α) : Except Error α :=
  match defects with
  | [] => .ok a
  | e :: _ => .error e

@[simp] theorem report_nil (a : α) : report [] a = .ok a := rfl

@[simp] theorem report_cons (e : Error) (es : List Error) (a : α) :
    report (e :: es) a = .error e := rfl

/-- A sequence meets the defects of its parts in order. What the second
part does with a result that the first never reaches is irrelevant, so
its description is only asked for in the absence of defects. -/
theorem report_bind {es es' : List Error} {a : α} {b : β} {f : α → Except Error β}
    (h : es = [] → f a = report es' b) :
    (report es a >>= f) = report (es ++ es') b := by
  cases es with
  | nil =>
      rw [report_nil, except_ok_bind, List.nil_append]
      exact h rfl
  | cons e es => rfl

/-- A last step that cannot fail meets no defect. -/
theorem report_bind_ok (es : List Error) (a : α) (f : α → β) :
    (report es a >>= fun a => Except.ok (f a)) = report es (f a) := by
  cases es with
  | nil => rfl
  | cons e es => rfl

/-- The members of a list meet their defects one after the other. -/
theorem Traced.outcome_mapM {xs : List α} {run : α → Traced Error β} {defects : α → List Error}
    {result : α → β} (h : ∀ x ∈ xs, (run x).outcome = report (defects x) (result x)) :
    (xs.mapM run).outcome = report (xs.flatMap defects) (xs.map result) := by
  induction xs with
  | nil => rfl
  | cons x xs ih =>
      rw [List.forall_mem_cons] at h
      simp only [List.mapM_cons, outcome_bind, outcome_pure, h.1, ih h.2, List.flatMap_cons,
        List.map_cons]
      exact report_bind fun _ => report_bind_ok _ _ _

/-- Success is the absence of defects. -/
theorem report_eq_ok_iff {es : List Error} {a b : α} :
    report es a = .ok b ↔ es = [] ∧ a = b := by
  cases es with
  | nil => simp
  | cons e es => simp

/-- What is reported is one of the defects. -/
theorem mem_of_report_eq_error {es : List Error} {a : α} {e : Error}
    (h : report es a = .error e) : e ∈ es := by
  cases es with
  | nil => cases h
  | cons e' es =>
      cases h
      exact List.mem_cons_self

/-- Some result comes out exactly in the absence of defects. -/
theorem exists_report_eq_ok_iff {es : List Error} {a : α} :
    (∃ b, report es a = .ok b) ↔ es = [] := by
  simp [report_eq_ok_iff]

end

end FilterSql
