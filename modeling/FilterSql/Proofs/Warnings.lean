import FilterSql.Proofs.LiteralPlaces

/-!
# `FilterSql.Proofs.Warnings`: texts without a type are announced

A text is bound without a type, and whoever runs the compiler is warned
of it. The warning is given where the literal is encoded, deep inside of
the traversal, and the traversal ends at the first defect. So the
warnings tell how far it has come: there is one for every text up to
that place, and for nothing else.

`Filter.findings` lists what a traversal comes across, defects and
literals in one list. A filter is asked for its depth and its clauses
before any of them is looked at, a connective for its parts, a condition
for its key and the shape of its operand before its literals. The
warnings are the texts in this list in front of the first defect
(`Layout.filter_warnings`).
-/

set_option autoImplicit false

namespace FilterSql

open Sql (Backend)

/-! ### Findings -/

/-- What a traversal comes across. -/
inductive Finding where
  | defect (e : Error)
  | literal (v : Json)

/-- A plain text. -/
def Json.text? : Json → Option String
  | .string s => some s
  | _ => none

namespace Finding

/-- The defects in a list of findings. -/
def defects (findings : List Finding) : List Error :=
  findings.filterMap fun
    | defect e => some e
    | literal _ => none

/-- The literals in a list of findings. -/
def literals (findings : List Finding) : List Json :=
  findings.filterMap fun
    | defect _ => none
    | literal v => some v

/-- The warnings for the texts in front of the first defect. -/
def announced : List Finding → List Event
  | [] => []
  | defect _ :: _ => []
  | literal v :: findings => (v.text?.map Event.untypedText).toList ++ announced findings

variable {fs gs : List Finding}

theorem defects_append : defects (fs ++ gs) = defects fs ++ defects gs :=
  List.filterMap_append

theorem literals_append : literals (fs ++ gs) = literals fs ++ literals gs :=
  List.filterMap_append

@[simp] theorem defects_map_defect (es : List Error) : defects (es.map defect) = es := by
  simp [defects, List.filterMap_map]

@[simp] theorem literals_map_defect (es : List Error) : literals (es.map defect) = [] := by
  simp [literals, List.filterMap_map]

@[simp] theorem announced_map_defect (es : List Error) : announced (es.map defect) = [] := by
  cases es <;> rfl

/-- Without a defect nothing keeps later texts from being announced. -/
theorem announced_append_of_sound (h : defects fs = []) :
    announced (fs ++ gs) = announced fs ++ announced gs := by
  induction fs with
  | nil => rfl
  | cons finding fs ih =>
      cases finding with
      | defect e => cases h
      | literal v => rw [List.cons_append, announced, announced, ih h, List.append_assoc]

/-- Behind a defect nothing is announced. -/
theorem announced_append_of_defect (h : defects fs ≠ []) :
    announced (fs ++ gs) = announced fs := by
  induction fs with
  | nil => exact absurd rfl h
  | cons finding fs ih =>
      cases finding with
      | defect e => rfl
      | literal v => rw [List.cons_append, announced, announced, ih h]

/-- Findings without a defect are literals. -/
theorem eq_map_literal (h : defects fs = []) : fs = (literals fs).map literal := by
  induction fs with
  | nil => rfl
  | cons finding fs ih =>
      cases finding with
      | defect e => cases h
      | literal v => exact congrArg (literal v :: ·) (ih h)

/-- Of literals the texts are announced. -/
theorem announced_map_literal (vs : List Json) :
    announced (vs.map literal) = (vs.filterMap Json.text?).map Event.untypedText := by
  induction vs with
  | nil => rfl
  | cons v vs ih =>
      rw [List.map_cons, announced, ih]
      cases h : v.text? <;> simp [h]

@[simp] theorem defects_map_literal (vs : List Json) : defects (vs.map literal) = [] := by
  simp [defects, List.filterMap_map]

@[simp] theorem literals_map_literal (vs : List Json) : literals (vs.map literal) = vs := by
  simp [literals, List.filterMap_map]

/-- A first defect has literals in front of it and nothing else. -/
theorem split_at_defect {e : Error} {es : List Error} (h : defects fs = e :: es) :
    ∃ (vs : List Json) (after : List Finding), fs = vs.map literal ++ defect e :: after := by
  induction fs with
  | nil => cases h
  | cons finding fs ih =>
      cases finding with
      | defect e' =>
          obtain ⟨rfl, -⟩ := List.cons.inj h
          exact ⟨[], fs, rfl⟩
      | literal v =>
          obtain ⟨vs, after, rfl⟩ := ih h
          exact ⟨v :: vs, after, rfl⟩

end Finding

/-! ### Warnings of computations -/

namespace Traced

variable {ε α β : Type}

/-- The warnings among the events. -/
def warnings (x : Traced ε α) : List Event :=
  x.events.filter fun e => e.level = .warn

@[simp] theorem warnings_pure (a : α) : (pure a : Traced ε α).warnings = [] := rfl

@[simp] theorem warnings_fail (e : ε) : (fail e : Traced ε α).warnings = [] := rfl

@[simp] theorem warnings_ofExcept (x : Except ε α) : (ofExcept x).warnings = [] := rfl

/-- A sequence that goes on gives the warnings of both parts. -/
theorem warnings_bind_of_ok {x : Traced ε α} {a : α} (h : x.outcome = .ok a)
    (f : α → Traced ε β) : (x >>= f).warnings = x.warnings ++ (f a).warnings := by
  rcases x with ⟨events, outcome⟩
  cases h
  exact List.filter_append ..

/-- One that fails gives those of its first part. -/
theorem warnings_bind_of_error {x : Traced ε α} {e : ε} (h : x.outcome = .error e)
    (f : α → Traced ε β) : (x >>= f).warnings = x.warnings := by
  rcases x with ⟨events, outcome⟩
  cases h
  rfl

/-- A last step that gives no warning. -/
theorem warnings_bind_silent {x : Traced ε α} {f : α → Traced ε β}
    (h : ∀ a, (f a).warnings = []) : (x >>= f).warnings = x.warnings := by
  cases hx : x.outcome with
  | error e => exact warnings_bind_of_error hx f
  | ok a => rw [warnings_bind_of_ok hx, h, List.append_nil]

/-- A first step that logs something of less importance. -/
theorem warnings_emit_bind {event : Event} (h : event.level ≠ .warn) (f : Unit → Traced ε β) :
    (emit event >>= f).warnings = (f ()).warnings := by
  have hemit : (emit event : Traced ε Unit).warnings = [] := by
    simp [warnings, emit, h]
  rw [warnings_bind_of_ok rfl, hemit, List.nil_append]

/-- A sequence of steps announces what its findings say, if both steps
do. The second one is only asked for if the first gets to its end. -/
theorem warnings_bind {x : Traced Error α} {f : α → Traced Error β} {fs gs : List Finding} {a : α}
    (hx : x.warnings = Finding.announced fs) (houtcome : x.outcome = report (Finding.defects fs) a)
    (hf : Finding.defects fs = [] → (f a).warnings = Finding.announced gs) :
    (x >>= f).warnings = Finding.announced (fs ++ gs) := by
  cases hdefects : Finding.defects fs with
  | nil =>
      rw [hdefects, report_nil] at houtcome
      rw [warnings_bind_of_ok houtcome, hx, hf hdefects,
        Finding.announced_append_of_sound hdefects]
  | cons e es =>
      -- The first step fails and `f` does not run, so `gs` has no say.
      rw [hdefects, report_cons] at houtcome
      rw [warnings_bind_of_error houtcome, hx,
        Finding.announced_append_of_defect (hdefects ▸ List.cons_ne_nil e es)]

/-- The members of a list announce their texts one after the other, up to
the first defect in any of them. -/
theorem warnings_mapM {xs : List α} {run : α → Traced Error β} {found : α → List Finding}
    {result : α → β} (hrun : ∀ x ∈ xs, (run x).warnings = Finding.announced (found x))
    (houtcome : ∀ x ∈ xs, (run x).outcome = report (Finding.defects (found x)) (result x)) :
    (xs.mapM run).warnings = Finding.announced (xs.flatMap found) := by
  induction xs with
  | nil => rfl
  | cons x xs ih =>
      rw [List.forall_mem_cons] at hrun houtcome
      rw [List.mapM_cons, List.flatMap_cons]
      refine warnings_bind hrun.1 houtcome.1 fun _ => ?_
      rw [warnings_bind_silent fun _ => rfl, ih hrun.2 houtcome.2]

/-- A check comes first. -/
theorem warnings_ofExcept_bind {x : Except Error α} {f : α → Traced Error β} {es : List Error}
    {gs : List Finding} {a : α} (hx : x = report es a)
    (hf : es = [] → (f a).warnings = Finding.announced gs) :
    (ofExcept x >>= f).warnings = Finding.announced (es.map .defect ++ gs) := by
  refine warnings_bind (a := a) ?_ ?_ ?_
  · rw [warnings_ofExcept, Finding.announced_map_defect]
  · rw [outcome_ofExcept, Finding.defects_map_defect, hx]
  · rwa [Finding.defects_map_defect]

end Traced

/-! ### Literals -/

namespace Literal

/-- What encoding a literal comes across. -/
def findings (v : Json) : List Finding :=
  (defects v).map .defect ++ [.literal v]

/-- The findings of a value hold its defects. -/
@[simp] theorem defects_findings (v : Json) : Finding.defects (findings v) = defects v := by
  rw [findings, Finding.defects_append, Finding.defects_map_defect]
  exact List.append_nil _

/-- The same for several values. -/
theorem defects_flatMap_findings (vs : List Json) :
    Finding.defects (vs.flatMap findings) = vs.flatMap defects := by
  induction vs with
  | nil => rfl
  | cons v vs ih =>
      rw [List.flatMap_cons, Finding.defects_append, defects_findings, ih, List.flatMap_cons]

/-- They also hold the values themselves. -/
theorem literals_flatMap_findings (vs : List Json) :
    Finding.literals (vs.flatMap findings) = vs := by
  induction vs with
  | nil => rfl
  | cons v vs ih =>
      rw [List.flatMap_cons, Finding.literals_append, ih, findings, Finding.literals_append,
        Finding.literals_map_defect]
      rfl

/-- A literal is announced if it is a text. -/
theorem encode_warnings (backend : Backend) (v : Json) :
    (encode backend v).warnings = Finding.announced (findings v) := by
  cases v with
  | null => rfl
  | bool b => rfl
  | number n => cases h : n.integerText? <;> simp [encode, findings, defects, h] <;> rfl
  | string s => by_cases hs : s = "" <;> simp [encode, findings, defects, hs] <;> rfl
  | array items => rfl
  | object fields =>
      -- An object is a date or a defect, and dates have a type.
      have hsilent : (encode backend (.object fields)).warnings = [] := by
        rw [encode]
        split
        · exact Traced.warnings_bind_silent fun _ => rfl
        · rfl
      rw [hsilent]
      unfold findings
      cases defects (.object fields) <;> rfl

/-- Several values warn of the texts among them, up to the first defect. -/
theorem encodeAll_warnings (backend : Backend) (vs : List Json) :
    (encodeAll backend vs).warnings = Finding.announced (vs.flatMap findings) := by
  have houtcome : ∀ v ∈ vs,
      (encode backend v).outcome = report (Finding.defects (findings v)) (ofJson backend v) := by
    intro v _
    rw [encode_outcome, defects_findings]
  rw [encodeAll_eq_mapM]
  exact Traced.warnings_mapM (fun v _ => encode_warnings backend v) houtcome

end Literal

/-! ### Conditions -/

namespace Layout

variable (layout : Layout)

/-- What compiling a condition comes across. -/
def propertyFindings (key : String) (condition : Condition) : List Finding :=
  (layout.keyDefects key).map .defect ++
    (condition.shapeDefects.map .defect ++ condition.literals.flatMap Literal.findings)

/-- The findings of a property hold its defects. -/
theorem defects_propertyFindings (key : String) (condition : Condition) :
    Finding.defects (layout.propertyFindings key condition)
      = layout.propertyDefects key condition := by
  simp only [propertyFindings, propertyDefects, Finding.defects_append, Finding.defects_map_defect,
    Literal.defects_flatMap_findings]

/-- And the literals of its condition. -/
theorem literals_propertyFindings (key : String) (condition : Condition) :
    Finding.literals (layout.propertyFindings key condition) = condition.literals := by
  simp only [propertyFindings, Finding.literals_append, Finding.literals_map_defect,
    Literal.literals_flatMap_findings, List.nil_append]

/-- The literals of an operand are looked at once its shape is right. The
cases are those of `operation_outcome`. -/
theorem operation_warnings (selector : String) (op : Comparison) (operand : Json) :
    (layout.operation selector op operand).warnings
      = Finding.announced ((op.shapeDefects operand).map .defect ++
          (op.literals operand).flatMap Literal.findings) := by
  unfold operation Comparison.shapeDefects Comparison.literals
  cases hshape : op.shape with
  | textSearch | binary =>
      simp only [List.map_nil, List.nil_append, List.flatMap_singleton]
      rw [Traced.warnings_bind_silent fun _ => rfl, Literal.encode_warnings]
  | list =>
      cases operand with
      | array items =>
          cases items with
          | nil => rfl
          | cons v vs =>
              simp only [List.map_nil, List.nil_append]
              rw [Traced.warnings_bind_silent fun _ => rfl, Literal.encodeAll_warnings]
      | _ => rfl
  | range =>
      cases operand with
      | array items =>
          match items with
          | [] | [_] | _ :: _ :: _ :: _ => rfl
          | [low, high] =>
              simp only [List.map_nil, List.nil_append, List.flatMap_cons, List.flatMap_nil,
                List.append_nil]
              refine Traced.warnings_bind (Literal.encode_warnings _ low)
                (a := Literal.ofJson layout.backend low) ?_ fun _ => ?_
              · rw [Literal.encode_outcome, Literal.defects_findings]
              · rw [Traced.warnings_bind_silent fun _ => rfl, Literal.encode_warnings]
      | _ => rfl

/-- A condition on a property. -/
theorem property_warnings (key : String) (condition : Condition) :
    (layout.property key condition).warnings
      = Finding.announced (layout.propertyFindings key condition) := by
  cases condition with
  | equals v =>
      refine Traced.warnings_ofExcept_bind (layout.selector_eq key) fun _ => ?_
      rw [Traced.warnings_bind_silent fun _ => rfl, Literal.encode_warnings]
      show _ = Finding.announced ([] ++ [v].flatMap Literal.findings)
      rw [List.nil_append, List.flatMap_singleton]
  | compare op operand =>
      refine Traced.warnings_ofExcept_bind (layout.selector_eq key) fun _ => ?_
      rw [Traced.warnings_emit_bind (by simp [Event.level])]
      exact layout.operation_warnings _ op operand

end Layout

/-! ### Trees -/

/-- Joining gives no warning, whether or not it succeeds. -/
theorem Fragment.join_warnings (op : Connective) (fragments : List Fragment) :
    (join op fragments).warnings = [] := by
  unfold join
  rw [Traced.warnings_bind_silent fun _ => rfl]
  unfold joinTexts
  split
  · rfl
  · split <;> rfl
  · split <;> rfl

/-- What compiling a tree at the given depth comes across, from left to
right. -/
def Interpretation.findings (layout : Layout) : Interpretation (Nat → List Finding) where
  condition key condition := fun _ => layout.propertyFindings key condition
  filter clauses := fun depth =>
    ((if Filter.maxDepth < depth then [Error.tooDeep Filter.maxDepth] else []) ++
      (if clauses.isEmpty then [Error.emptyFilter] else [])).map .defect ++
      clauses.flatMap fun clause => clause depth
  connective op parts := fun depth =>
    (if parts.isEmpty then [Error.emptyConnective op] else []).map .defect ++
      parts.flatMap fun part => part (depth + 1)

/-- What compiling a filter comes across. -/
def Filter.findings (layout : Layout) (t : Filter) : List Finding :=
  t.interpret (.findings layout) 0

section
variable (layout : Layout)

/-- The findings of a filter are its own defects and then those of its
clauses. -/
theorem Filter.findings_all (cs : List Clause) (depth : Nat) :
    (Filter.all cs).interpret (.findings layout) depth
      = ((if Filter.maxDepth < depth then [Error.tooDeep Filter.maxDepth] else []) ++
          (if cs.isEmpty then [Error.emptyFilter] else [])).map .defect ++
          cs.flatMap fun c => c.interpret (.findings layout) depth := by
  rw [Filter.interpret_all]
  show List.map _ (_ ++ if (cs.map _).isEmpty then _ else _) ++ (cs.map _).flatMap _ = _
  rw [List.isEmpty_map, List.flatMap_map]

/-- The findings of a join are its own defect and then those of its parts. -/
theorem Clause.findings_joined (op : Connective) (fs : List Filter) (depth : Nat) :
    (Clause.joined op fs).interpret (.findings layout) depth
      = (if fs.isEmpty then [Error.emptyConnective op] else []).map .defect ++
          fs.flatMap fun f => f.interpret (.findings layout) (depth + 1) := by
  rw [Clause.interpret_joined]
  show List.map _ (if (fs.map _).isEmpty then _ else _) ++ (fs.map _).flatMap _ = _
  rw [List.isEmpty_map, List.flatMap_map]

/-- The defects among the findings at any depth are the defects there. -/
def FindsDefects (found : Nat → List Finding) (defects : Nat → List Error) : Prop :=
  ∀ depth, Finding.defects (found depth) = defects depth

/-- A filter, given its clauses. -/
theorem findsDefects_all (cs : List Clause)
    (ih : ∀ c ∈ cs, FindsDefects (c.interpret (.findings layout)) (c.interpret (.defects layout))) :
    FindsDefects ((Filter.all cs).interpret (.findings layout))
      ((Filter.all cs).interpret (.defects layout)) := by
  intro depth
  have hclauses : Finding.defects (cs.flatMap fun c => c.interpret (.findings layout) depth)
      = cs.flatMap fun c => c.interpret (.defects layout) depth :=
    List.filterMap_flatMap.trans (List.flatMap_congr fun c hc => ih c hc depth)
  rw [Filter.findings_all, Finding.defects_append, Finding.defects_map_defect, hclauses,
    List.append_assoc, Filter.defects_all]

/-- A join, given its parts. -/
theorem findsDefects_joined (op : Connective) (fs : List Filter)
    (ih : ∀ f ∈ fs, FindsDefects (f.interpret (.findings layout)) (f.interpret (.defects layout))) :
    FindsDefects ((Clause.joined op fs).interpret (.findings layout))
      ((Clause.joined op fs).interpret (.defects layout)) := by
  intro depth
  have hparts : Finding.defects (fs.flatMap fun f => f.interpret (.findings layout) (depth + 1))
      = fs.flatMap fun f => f.interpret (.defects layout) (depth + 1) :=
    List.filterMap_flatMap.trans (List.flatMap_congr fun f hf => ih f hf (depth + 1))
  rw [Clause.findings_joined, Finding.defects_append, Finding.defects_map_defect, hparts,
    Clause.defects_joined]

/-- A property has the defects of its key and of its condition. -/
theorem findsDefects_property (key : String) (condition : Condition) :
    FindsDefects ((Clause.property key condition).interpret (.findings layout))
      ((Clause.property key condition).interpret (.defects layout)) := by
  rw [Clause.interpret_property, Clause.interpret_property]
  exact fun _ => layout.defects_propertyFindings key condition

/-- The findings of every filter hold its defects, in order. -/
theorem Filter.findsDefects (t : Filter) :
    FindsDefects (t.interpret (.findings layout)) (t.interpret (.defects layout)) :=
  Filter.induct
    (Q := fun c => FindsDefects (c.interpret (.findings layout)) (c.interpret (.defects layout)))
    (findsDefects_all layout) (findsDefects_joined layout) (findsDefects_property layout) t

/-- And so do those of every clause. -/
theorem Clause.findsDefects (c : Clause) :
    FindsDefects (c.interpret (.findings layout)) (c.interpret (.defects layout)) :=
  Clause.induct
    (P := fun t => FindsDefects (t.interpret (.findings layout)) (t.interpret (.defects layout)))
    (findsDefects_all layout) (findsDefects_joined layout) (findsDefects_property layout) c

/-- The literals among the findings of a filter are its literals. -/
theorem Filter.literals_findings (t : Filter) (depth : Nat) :
    Finding.literals (t.interpret (.findings layout) depth) = t.literals := by
  revert depth
  refine Filter.induct
    (P := fun t => ∀ depth, Finding.literals (t.interpret (.findings layout) depth) = t.literals)
    (Q := fun c => ∀ depth, Finding.literals (c.interpret (.findings layout) depth) = c.literals)
    ?_ ?_ ?_ t
  · intro cs ih depth
    rw [Filter.findings_all, Filter.literals_all, Finding.literals_append,
      Finding.literals_map_defect, List.nil_append]
    exact List.filterMap_flatMap.trans (List.flatMap_congr fun c hc => ih c hc depth)
  · intro op fs ih depth
    rw [Clause.findings_joined, Clause.literals_joined, Finding.literals_append,
      Finding.literals_map_defect, List.nil_append]
    exact List.filterMap_flatMap.trans (List.flatMap_congr fun f hf => ih f hf (depth + 1))
  · intro key condition depth
    rw [Clause.interpret_property, Clause.literals_property]
    exact layout.literals_propertyFindings key condition

end

namespace Layout

variable (layout : Layout)

/-- A run that meets the defects of a tree meets those among its
findings. -/
theorem Renders.outcome_findings {run : Nat → Traced Error Fragment}
    {found : Nat → List Finding} {defects : Nat → List Error} {fragment : Fragment}
    (h : Renders run defects fragment) (hfound : FindsDefects found defects) (depth : Nat) :
    (run depth).outcome = report (Finding.defects (found depth)) fragment := by
  rw [hfound depth]
  exact h.outcome depth

/-- A filter announces the texts in front of its first defect. -/
theorem filter_warnings (depth : Nat) (t : Filter) :
    (layout.filter depth t).warnings
      = Finding.announced (t.interpret (.findings layout) depth) := by
  revert depth
  refine Filter.induct
    (P := fun t => ∀ depth, (layout.filter depth t).warnings
      = Finding.announced (t.interpret (.findings layout) depth))
    (Q := fun c => ∀ depth, (layout.clause depth c).warnings
      = Finding.announced (c.interpret (.findings layout) depth))
    ?_ ?_ ?_ t
  · intro cs ih depth
    -- Depth and number of clauses are checked before the first clause.
    rw [filter_all, Filter.findings_all]
    refine Traced.warnings_ofExcept_bind (checkClauses_eq depth cs) fun _ => ?_
    rw [Traced.warnings_bind_silent (Fragment.join_warnings .and)]
    exact Traced.warnings_mapM (fun c hc => ih c hc depth) fun c _ =>
      (layout.rendersClause c).outcome_findings (Clause.findsDefects layout c) depth
  · intro op fs ih depth
    -- The event for a connective is no warning.
    rw [clause_joined, Clause.findings_joined, Traced.warnings_emit_bind (by simp [Event.level])]
    cases fs with
    | nil => rfl
    | cons f fs =>
        rw [List.isEmpty_cons, if_neg Bool.false_ne_true,
          Traced.warnings_bind_silent (Fragment.join_warnings op)]
        exact Traced.warnings_mapM (fun g hg => ih g hg (depth + 1)) fun g _ =>
          (layout.rendersFilter g).outcome_findings (Filter.findsDefects layout g) (depth + 1)
  · intro key condition depth
    rw [clause_property, Clause.interpret_property]
    exact layout.property_warnings key condition

end Layout

/-! ### Compiled filters -/

namespace Compiler

variable (compiler : Compiler)

/-- Literals without a type are the plain texts. -/
theorem filterMap_text?_eq {vs : List Json} (h : ∀ v ∈ vs, Literal.defects v = []) :
    vs.filterMap Json.text?
      = ((vs.map (Literal.ofJson compiler.layout.backend)).filter fun l => l.cast = none).map
          Literal.param := by
  induction vs with
  | nil => rfl
  | cons v vs ih =>
      rw [List.forall_mem_cons] at h
      rw [List.map_cons, List.filter_cons, List.filterMap_cons, ih h.2]
      cases v with
      | null | array => cases h.1
      | _ => rfl

/-- The warnings mirror the texts of a filter. If it compiles, there is a
warning for each of its texts, in order and with the text in it; these
are the parameters whose literals have no type. If it does not compile,
there is one for each text in front of the first defect, which is the one
that is reported. -/
theorem warnings_mirror_texts (t : Filter) :
    (∀ fragment, (compiler.compile t).outcome = .ok fragment →
      t.findings compiler.layout = t.literals.map .literal ∧
      (compiler.compile t).events.filter (fun event => event.level = .warn)
        = (t.literals.filterMap Json.text?).map .untypedText ∧
      ∃ literals, (Literal.encodeAll compiler.layout.backend t.literals).outcome = .ok literals ∧
        fragment.params = literals.map Literal.param ∧
        t.literals.filterMap Json.text?
          = (literals.filter fun l => l.cast = none).map Literal.param) ∧
    ∀ e, (compiler.compile t).outcome = .error e →
      ∃ before after later,
        t.findings compiler.layout = before.map .literal ++ .defect e :: after ∧
        t.literals = before ++ later ∧
        (compiler.compile t).events.filter (fun event => event.level = .warn)
          = (before.filterMap Json.text?).map .untypedText := by
  have hwarnings : (compiler.compile t).events.filter (fun event => event.level = .warn)
      = Finding.announced (t.findings compiler.layout) := by
    rw [compile_eq]
    exact compiler.layout.filter_warnings 0 t
  have hliterals : Finding.literals (t.findings compiler.layout) = t.literals :=
    Filter.literals_findings compiler.layout t 0
  have houtcome : (compiler.compile t).outcome
      = report (Finding.defects (t.findings compiler.layout)) (t.rendered compiler.layout) := by
    rw [Filter.findings, Filter.findsDefects]
    exact compiler.compile_outcome t
  constructor
  · intro fragment h
    -- Without a defect there is nothing but literals.
    have hnone : Finding.defects (t.findings compiler.layout) = [] := by
      rw [houtcome, report_eq_ok_iff] at h
      exact h.1
    have hfindings := Finding.eq_map_literal hnone
    rw [hliterals] at hfindings
    obtain ⟨literals, hencode, hparams⟩ := compiler.params_of_compile h
    refine ⟨hfindings, ?_, literals, hencode, hparams, ?_⟩
    · rw [hwarnings, hfindings, Finding.announced_map_literal]
    · rw [Literal.encodeAll_outcome, report_eq_ok_iff, List.flatMap_eq_nil_iff] at hencode
      rw [← hencode.2]
      exact compiler.filterMap_text?_eq hencode.1
  · intro e h
    cases hdefects : Finding.defects (t.findings compiler.layout) with
    | nil =>
        rw [houtcome, hdefects] at h
        cases h
    | cons first es =>
        -- The error that is reported is the first defect.
        rw [houtcome, hdefects] at h
        cases h
        obtain ⟨before, after, hsplit⟩ := Finding.split_at_defect hdefects
        refine ⟨before, after, Finding.literals after, hsplit, ?_, ?_⟩
        · rw [← hliterals, hsplit, Finding.literals_append, Finding.literals_map_literal]
          rfl
        · rw [hwarnings, hsplit, Finding.announced_append_of_sound (Finding.defects_map_literal _),
            Finding.announced_map_literal]
          exact List.append_nil _

/-- A list with a `null` between two texts, behind another text. -/
def interruptedFilter : Filter :=
  .all
    [.property "k" (.equals (.string "a")),
     .property "k" (.compare .oneOf (.array [.string "b", .null, .string "c"]))]

/-- Of a filter that compiles all three texts are announced and the truth
value is not. Behind a `null` no text is announced any more. -/
theorem warnings_mirror_texts_awkward :
    (awkward.compile awkwardFilter).events.filter (fun event => event.level = .warn)
      = [.untypedText "x", .untypedText "y", .untypedText "z"] ∧
    (awkward.compile interruptedFilter).outcome = .error .missingOperand ∧
    ∃ before after later,
      interruptedFilter.findings awkward.layout
        = before.map .literal ++ .defect .missingOperand :: after ∧
      interruptedFilter.literals = before ++ later ∧
      (awkward.compile interruptedFilter).events.filter (fun event => event.level = .warn)
        = (before.filterMap Json.text?).map .untypedText ∧
      before.filterMap Json.text? = ["a", "b"] := by
  obtain ⟨fragment, hcompile⟩ : ∃ fragment, (awkward.compile awkwardFilter).outcome = .ok fragment :=
    ⟨_, rfl⟩
  have hfails : (awkward.compile interruptedFilter).outcome = .error .missingOperand := rfl
  obtain ⟨-, hwarnings, -⟩ := (awkward.warnings_mirror_texts awkwardFilter).1 fragment hcompile
  obtain ⟨before, after, later, hsplit, hliterals, hinterrupted⟩ :=
    (awkward.warnings_mirror_texts interruptedFilter).2 _ hfails
  have htexts : (before.filterMap Json.text?).map Event.untypedText
      = ["a", "b"].map Event.untypedText := hinterrupted.symm
  refine ⟨hwarnings, hfails, before, after, later, hsplit, hliterals, hinterrupted, ?_⟩
  exact List.map_injective_iff.mpr (fun _ _ => Event.untypedText.inj) htexts

end Compiler

end FilterSql
