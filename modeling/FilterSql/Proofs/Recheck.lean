import FilterSql.Proofs.Blame
import FilterSql.Proofs.Grammar

/-!
# `FilterSql.Proofs.Recheck`: what is left to go wrong after reading

The compiler checks the shape of a tree although the reader has done
so before, because trees can be made in code. For a tree that has been
read these checks find nothing: it is not nested too deep, it holds no
empty list, and every operator in it is known. What is left to go wrong
concerns single conditions, namely a key, the shape of an operand, or a
literal (`Error.concernsCondition`).

Reader and compiler each count how deep connectives are nested, one
over JSON and one over trees. Both counts are compared here with a
depth that is measured beforehand, `Json.filterNesting` of a value and
`Filter.nesting` of a tree, and the two measures agree on whatever is
read.

* `Filter.arisesIn_of_mem_defects`: where a defect of a tree comes
  from.
* `Filter.ofJsonAt_toJson`: a tree of well-formed clauses is read from
  its JSON form, unless it is nested too deep.
* `Filter.filterNesting_toJson`: the two measures agree.
-/

set_option autoImplicit false

namespace FilterSql

/-! ### Faults of a condition -/

/-- The faults that a single condition can have: its key, the shape of
its operand, and its literals. -/
def Error.concernsCondition : Error → Bool
  | invalidPropertyKey _ | operandNotArray _ _ | betweenArity _ | emptyOperandList _
  | nonIntegerNumber _ | missingOperand | unsupportedValue _ => true
  | _ => false

/-- What is wrong with a literal concerns its condition. -/
theorem Literal.concernsCondition_of_mem_defects {v : Json} {e : Error}
    (h : e ∈ Literal.defects v) : e.concernsCondition = true := by
  have hsingle : ∀ e', e'.concernsCondition = true → e ∈ [e'] → e.concernsCondition = true := by
    intro e' he' hmem
    rw [List.mem_singleton.mp hmem]
    exact he'
  cases v with
  | null => exact hsingle _ rfl h
  | bool b => cases h
  | number n =>
      rw [defects] at h
      split at h
      · cases h
      · exact hsingle _ rfl h
  | string s =>
      rw [defects] at h
      split at h
      · exact hsingle _ rfl h
      · cases h
  | array items => exact hsingle _ rfl h
  | object fields =>
      rw [defects] at h
      split at h
      · unfold dateDefects at h
        split at h
        · exact hsingle _ rfl h
        · exact hsingle _ rfl h
        · split at h
          · exact hsingle _ rfl h
          · cases h
        · cases h
      · exact hsingle _ rfl h

/-- And so does what is wrong with the shape of an operand. -/
theorem Comparison.concernsCondition_of_mem_shapeDefects {op : Comparison} {operand : Json}
    {e : Error} (h : e ∈ op.shapeDefects operand) : e.concernsCondition = true := by
  unfold shapeDefects at h
  split at h
  · rw [List.mem_singleton.mp h]
    rfl
  · cases h
  · rw [List.mem_singleton.mp h]
    rfl
  · cases h
  · rw [List.mem_singleton.mp h]
    rfl
  · rw [List.mem_singleton.mp h]
    rfl
  · cases h

/-- Whatever is wrong with a condition concerns a condition. -/
theorem Layout.concernsCondition_of_mem_propertyDefects {layout : Layout} {key : String}
    {condition : Condition} {e : Error} (h : e ∈ layout.propertyDefects key condition) :
    e.concernsCondition = true := by
  rw [propertyDefects, List.mem_append, List.mem_append, List.mem_flatMap] at h
  rcases h with hkey | hshape | ⟨v, -, hv⟩
  · unfold keyDefects at hkey
    split at hkey
    · cases hkey
    · rw [List.mem_singleton.mp hkey]
      rfl
  · exact Comparison.concernsCondition_of_mem_shapeDefects hshape
  · exact Literal.concernsCondition_of_mem_defects hv

/-! ### Where a defect comes from -/

/-- The origin of a defect that is met in a tree, or in a list of trees,
at the given depth: a condition of the tree, its nesting, or a list in
it that is empty. -/
inductive Error.ArisesIn (layout : Layout) (depth : Nat)
    (properties : List (String × Condition)) (nesting : Nat) (full : Bool) : Error → Prop where
  | condition {e : Error} {p : String × Condition} (mem : p ∈ properties)
    (defect : e ∈ layout.propertyDefects p.1 p.2) : ArisesIn layout depth properties nesting full e
  | depth (deep : Filter.maxDepth < depth + nesting) :
    ArisesIn layout depth properties nesting full (.tooDeep Filter.maxDepth)
  | filter (lacking : full = false) :
    ArisesIn layout depth properties nesting full .emptyFilter
  | connective (op : Connective) (lacking : full = false) :
    ArisesIn layout depth properties nesting full (.emptyConnective op)

/-- A defect of a part is a defect of the whole: the whole has all its
conditions, reaches at least as deep, and is full only if the part is. -/
theorem Error.ArisesIn.whole {layout : Layout} {depth depth' nesting nesting' : Nat}
    {properties properties' : List (String × Condition)} {full full' : Bool} {e : Error}
    (h : e.ArisesIn layout depth properties nesting full)
    (hproperties : ∀ p ∈ properties, p ∈ properties')
    (hnesting : depth + nesting ≤ depth' + nesting') (hfull : full = false → full' = false) :
    e.ArisesIn layout depth' properties' nesting' full' := by
  cases h with
  | condition hmem hdefect => exact .condition (hproperties _ hmem) hdefect
  | depth hdeep => exact .depth (Nat.lt_of_lt_of_le hdeep hnesting)
  | filter hlacking => exact .filter (hfull hlacking)
  | connective op hlacking => exact .connective op (hfull hlacking)

/-- The largest number of a list is not below any of them. -/
theorem le_foldr_max {n : Nat} {ns : List Nat} (h : n ∈ ns) : n ≤ ns.foldr max 0 := by
  have hall : 0 + ns.foldr max 0 ≤ ns.foldr max 0 := Nat.le_of_eq (Nat.zero_add _)
  have := (add_foldr_max_le_iff.mp hall).2 n h
  omega

namespace Filter

/-- A member of a list passes its defects on to the list. -/
private theorem arisesIn_list {α : Type} {layout : Layout} {xs : List α} {x : α} (hx : x ∈ xs)
    {props : α → List (String × Condition)} {nesting : α → Nat} {full : α → Bool}
    {depth k : Nat} {e : Error}
    (h : e.ArisesIn layout (depth + k) (props x) (nesting x) (full x)) :
    e.ArisesIn layout depth (xs.map props).flatten (k + (xs.map nesting).foldr max 0)
      (!(xs.map full).isEmpty && (xs.map full).all id) := by
  refine h.whole ?_ ?_ ?_
  · intro p hp
    exact List.mem_flatten.mpr ⟨props x, List.mem_map_of_mem hx, hp⟩
  · have := le_foldr_max (List.mem_map_of_mem (f := nesting) hx)
    omega
  · intro hlacking
    rw [Bool.and_eq_false_iff, List.all_eq_false]
    exact .inr ⟨full x, List.mem_map_of_mem hx, by simp [hlacking]⟩

/-- Every defect of a tree comes from a condition in it, from its
nesting, or from an empty list. -/
theorem arisesIn_of_mem_defects {layout : Layout} {t : Filter} {depth : Nat} {e : Error}
    (h : e ∈ t.defects layout depth) :
    e.ArisesIn layout depth t.properties t.nesting t.isFull := by
  revert depth
  refine Filter.induct (P := fun t => ∀ {depth}, e ∈ t.defects layout depth →
      e.ArisesIn layout depth t.properties t.nesting t.isFull)
    (Q := fun c => ∀ {depth}, e ∈ c.interpret (.defects layout) depth →
      e.ArisesIn layout depth (c.interpret .properties) (c.interpret .nesting)
        (c.interpret .full)) ?_ ?_ ?_ t
  · intro cs ih depth h
    rw [Filter.defects, Filter.interpret_all] at h
    rw [Filter.properties, Filter.nesting, Filter.isFull, Filter.interpret_all,
      Filter.interpret_all, Filter.interpret_all]
    simp only [Interpretation.defects, List.mem_append, List.mem_flatMap, List.mem_map] at h
    rcases h with hdeep | hempty | ⟨_, ⟨c, hc, rfl⟩, he⟩
    · split at hdeep
      · rw [List.mem_singleton.mp hdeep]
        exact .depth (by omega)
      · cases hdeep
    · split at hempty
      · rename_i hnil
        rw [List.mem_singleton.mp hempty]
        rw [List.isEmpty_iff, List.map_eq_nil_iff] at hnil
        subst hnil
        exact .filter rfl
      · cases hempty
    · have hclause := arisesIn_list hc (k := 0) (ih c hc he)
      rwa [Nat.zero_add] at hclause
  · intro op fs ih depth h
    rw [Clause.interpret_joined] at h
    rw [Clause.interpret_joined, Clause.interpret_joined, Clause.interpret_joined]
    simp only [Interpretation.defects, List.mem_append, List.mem_flatMap, List.mem_map] at h
    rcases h with hempty | ⟨_, ⟨f, hf, rfl⟩, he⟩
    · split at hempty
      · rename_i hnil
        rw [List.mem_singleton.mp hempty]
        rw [List.isEmpty_iff, List.map_eq_nil_iff] at hnil
        subst hnil
        exact .connective op rfl
      · cases hempty
    -- A part lies one level deeper, which the connective counts as its own.
    · exact arisesIn_list hf (ih f hf he)
  · intro key condition depth h
    rw [Clause.interpret_property] at h
    rw [Clause.interpret_property, Clause.interpret_property, Clause.interpret_property]
    exact .condition (p := (key, condition)) (List.mem_singleton_self _) h

end Filter

namespace Filter

/-! ### Trees of well-formed clauses -/

/-- Every clause within the filter is well formed, however deep it
lies. -/
def Regular (t : Filter) : Prop :=
  ∀ f, t.Within f → ∀ c ∈ f.clauses, c.WellFormed

/-- A filter is regular if its clauses are well formed and all filters
in them are regular. -/
theorem regular_all_iff (cs : List Clause) :
    (Filter.all cs).Regular ↔ (∀ c ∈ cs, c.WellFormed) ∧ ∀ c ∈ cs, ∀ f ∈ c.parts, f.Regular :=
  forall_within_iff _

/-- The two measures of depth agree. -/
theorem filterNesting_toJson (t : Filter) (h : t.Regular) :
    t.toJson.filterNesting = t.nesting := by
  revert h
  refine Filter.induct (P := fun t => t.Regular → t.toJson.filterNesting = t.nesting)
    (Q := fun c => c.WellFormed → (∀ f ∈ c.parts, f.Regular) →
      Json.entryNesting c.toEntry.1 c.toEntry.2 = c.interpret .nesting) ?_ ?_ ?_ t
  · intro cs ih h
    obtain ⟨hwell, hparts⟩ := (regular_all_iff cs).mp h
    rw [toJson_all, Json.filterNesting, Json.entriesNesting_eq, Filter.nesting,
      Filter.interpret_all, List.map_map]
    have hmap : cs.map ((fun field => Json.entryNesting field.1 field.2) ∘ Clause.toEntry)
        = cs.map (Clause.interpret .nesting) :=
      List.map_congr_left fun c hc => ih c hc (hwell c hc) (hparts c hc)
    rw [hmap]
    rfl
  · intro op fs ih _ hparts
    rw [Clause.toEntry_joined, Clause.interpret_joined]
    rw [Json.entryNesting, Clause.isConnectiveKey_symbol, if_pos rfl, Json.itemsNesting_eq,
      List.map_map]
    have hmap : fs.map (Json.filterNesting ∘ toJson) = fs.map (Filter.interpret .nesting) :=
      List.map_congr_left fun f hf => ih f hf (hparts f hf)
    rw [hmap]
    rfl
  · intro key condition hwell _
    rw [Clause.toEntry_property, Clause.interpret_property]
    -- The key of a property is never that of a connective.
    have hplain : Clause.isConnectiveKey key = false := by
      cases hwell with
      | property _ hplain _ => exact decide_eq_false hplain
    cases hvalue : condition.toJson with
    | array items => simp [Json.entryNesting, hplain, Interpretation.nesting]
    | _ => rfl

/-- A tree of well-formed clauses that asks something holds no empty
list. -/
theorem isFull_of_regular (t : Filter) (h : t.Regular) (hne : t.clauses ≠ []) :
    t.isFull = true := by
  revert h hne
  have hlist : ∀ {α : Type} {xs : List α} {full : α → Bool}, xs ≠ [] →
      (∀ x ∈ xs, full x = true) → (!(xs.map full).isEmpty && (xs.map full).all id) = true := by
    intro α xs full hne hfull
    simp only [Bool.and_eq_true, Bool.not_eq_true', List.isEmpty_eq_false_iff, ne_eq,
      List.map_eq_nil_iff, List.all_map, List.all_eq_true, Function.comp_apply, id]
    exact ⟨hne, hfull⟩
  refine Filter.induct (P := fun t => t.Regular → t.clauses ≠ [] → t.isFull = true)
    (Q := fun c => c.WellFormed → (∀ f ∈ c.parts, f.Regular) → c.interpret .full = true)
    ?_ ?_ ?_ t
  · intro cs ih h hne
    obtain ⟨hwell, hparts⟩ := (regular_all_iff cs).mp h
    rw [Filter.isFull, Filter.interpret_all]
    exact hlist hne fun c hc => ih c hc (hwell c hc) (hparts c hc)
  · intro op fs ih hwell hparts
    rw [Clause.interpret_joined]
    cases hwell with
    | joined hne hfull => exact hlist hne fun f hf => ih f hf (hparts f hf) (hfull f hf)
  · intro key condition _ _
    rw [Clause.interpret_property]
    rfl

section
variable {ε α β : Type}

/-- A list whose items are each read or refused with the same error is
read if no item is refused. -/
theorem mapM_eq_ite {f : α → Except ε β} {g : β → α} {P : β → Prop} [DecidablePred P]
    {e : ε} {bs : List β} (h : ∀ b ∈ bs, f (g b) = if P b then .ok b else .error e) :
    (bs.map g).mapM f = if ∀ b ∈ bs, P b then .ok bs else .error e := by
  induction bs with
  | nil => simp [pure, Except.pure]
  | cons b bs ih =>
      rw [List.forall_mem_cons] at h
      rw [List.map_cons, List.mapM_cons, h.1, ih h.2]
      simp only [List.forall_mem_cons]
      by_cases hb : P b
      · rw [if_pos hb, except_ok_bind]
        by_cases hbs : ∀ b ∈ bs, P b
        · rw [if_pos hbs, if_pos ⟨hb, hbs⟩, except_ok_bind]
          rfl
        · rw [if_neg hbs, except_error_bind, if_neg fun hall => hbs hall.2]
      · rw [if_neg hb, except_error_bind, if_neg fun hall => hb hall.1]

end

/-- A tree of well-formed clauses is read from its JSON form, unless it
is nested too deep, and then that is what the reader says. -/
theorem ofJsonAt_toJson (t : Filter) (depth : Nat) (h : t.Regular)
    (hne : 0 < depth → t.clauses ≠ []) :
    ofJsonAt depth t.toJson
      = if depth + t.nesting ≤ maxDepth then .ok t else .error (.tooDeep maxDepth) := by
  revert depth h
  refine Filter.induct (P := fun t => ∀ depth, t.Regular → (0 < depth → t.clauses ≠ []) →
      ofJsonAt depth t.toJson
        = if depth + t.nesting ≤ maxDepth then .ok t else .error (.tooDeep maxDepth))
    (Q := fun c => ∀ depth, depth ≤ maxDepth → c.WellFormed → (∀ f ∈ c.parts, f.Regular) →
      clauseOfJson depth c.toEntry.1 c.toEntry.2
        = if depth + c.interpret .nesting ≤ maxDepth then .ok c
          else .error (.tooDeep maxDepth)) ?_ ?_ ?_ t
  · intro cs ih depth h hne
    obtain ⟨hwell, hparts⟩ := (regular_all_iff cs).mp h
    rw [toJson_all, ofJsonAt, Filter.nesting, Filter.interpret_all]
    simp only [Interpretation.nesting, add_foldr_max_le_iff, List.forall_mem_map]
    by_cases hdepth : depth ≤ maxDepth
    · have hchecked : checkEntries depth (cs.map Clause.toEntry) = .ok () := by
        refine (checkEntries_eq_ok_iff depth _).mpr ⟨hdepth, fun hpos => ?_⟩
        simpa [Filter.clauses] using hne hpos
      rw [hchecked, except_ok_bind, clausesOfJson_eq_mapM,
        mapM_eq_ite fun c hc => ih c hc depth hdepth (hwell c hc) (hparts c hc)]
      by_cases hcs : ∀ c ∈ cs, depth + c.interpret .nesting ≤ maxDepth
      · rw [if_pos hcs, if_pos ⟨hdepth, hcs⟩, except_ok_bind]
      · rw [if_neg hcs, if_neg fun hall => hcs hall.2, except_error_bind]
    · have hrefused : checkEntries depth (cs.map Clause.toEntry) = .error (.tooDeep maxDepth) := by
        rw [checkEntries, if_pos (Nat.lt_of_not_le hdepth)]
      rw [hrefused, except_error_bind, if_neg fun hall => hdepth hall.1]
  · intro op fs ih depth _ hwell hparts
    cases hwell with
    | joined hsome hfull =>
        have hitems : (fs.map toJson).isEmpty = false := by simpa using hsome
        have hop := (Connective.ofSymbol?_eq_some_iff op.symbol op).mpr rfl
        rw [Clause.toEntry_joined, Clause.interpret_joined]
        simp only [clauseOfJson, Clause.isConnectiveKey_symbol, if_true, hop, hitems,
          Bool.false_eq_true, if_false]
        rw [partsOfJson_eq_mapM,
          mapM_eq_ite fun f hf => ih f hf (depth + 1) (hparts f hf) fun _ => hfull f hf]
        -- A connective is one level, and its parts start behind it.
        have hbound : depth + Interpretation.nesting.connective op (fs.map (Filter.interpret .nesting))
            ≤ maxDepth ↔ ∀ f ∈ fs, depth + 1 + f.nesting ≤ maxDepth := by
          show depth + (1 + (fs.map Filter.nesting).foldr max 0) ≤ maxDepth ↔ _
          rw [← Nat.add_assoc, add_foldr_max_le_iff_of_ne_nil (by simpa using hsome),
            List.forall_mem_map]
        by_cases hfs : ∀ f ∈ fs, depth + 1 + f.nesting ≤ maxDepth
        · rw [if_pos hfs, except_ok_bind, if_pos (hbound.mpr hfs)]
        · rw [if_neg hfs, except_error_bind, if_neg fun hall => hfs (hbound.mp hall)]
  · intro key condition depth hdepth hwell _
    have hread := (clauseOfJson_eq_ok_property_iff depth _ key condition).mpr ⟨rfl, hwell⟩
    rw [Clause.interpret_property, hread]
    exact (if_pos (show depth + 0 ≤ maxDepth from hdepth)).symm

/-- The clauses of a tower are well formed, however high it is. -/
theorem regular_tower (n : Nat) : (tower n).Regular := by
  induction n with
  | zero =>
      rw [tower, regular_all_iff]
      simp only [List.forall_mem_cons, Clause.parts, List.not_mem_nil, false_implies, implies_true,
        and_true]
      refine ⟨.property (by decide) (by decide) ?_, .property (by decide) (by decide) ?_⟩
      · rintro v ⟨⟩
        exact rfl
      · rintro v ⟨⟩
  | succ n ih =>
      have hne : (tower n).clauses ≠ [] := by cases n <;> simp [tower, Filter.clauses]
      rw [tower, regular_all_iff]
      simp only [List.forall_mem_cons, Clause.parts, List.not_mem_nil, false_implies, implies_true,
        and_true]
      refine ⟨⟨.joined (by simp) (by simpa using hne), .property (by decide) (by decide) ?_⟩, ih⟩
      rintro v ⟨⟩
      exact trivial

end Filter

/-! ### Reader and compiler -/

/-- An outcome keeps to the limit for something that is nested as deep
as given: beyond the limit there is no result, and the depth is blamed
beyond the limit only. -/
structure KeepsDepth {α : Type} (x : Except Error α) (nesting : Nat) : Prop where
  refuses : 32 < nesting → ∀ a, x ≠ .ok a
  blames : ∀ max, x = .error (.tooDeep max) → 32 < nesting

/-- The reader keeps to the limit. -/
theorem Filter.keepsDepth_ofJson (v : Json) : KeepsDepth (ofJson v) v.filterNesting := by
  constructor
  · intro hdeep t hread
    obtain ⟨rfl, hnesting, hregular⟩ := (ofJson_eq_ok_iff v t).mp hread
    rw [filterNesting_toJson t hregular] at hdeep
    omega
  · intro max hread
    cases failsOnly_ofJson v _ hread with
    | fault hconcerns => cases hconcerns
    | depth hdeep => exact hdeep

namespace Compiler

variable (compiler : Compiler)

/-- An error of the compiler is a defect of the tree. -/
theorem arisesIn_of_compile {t : Filter} {e : Error}
    (h : (compiler.compile t).outcome = .error e) :
    e.ArisesIn compiler.layout 0 t.properties t.nesting t.isFull := by
  rw [compile_outcome] at h
  exact Filter.arisesIn_of_mem_defects (mem_of_report_eq_error h)

/-- The compiler keeps to the limit. -/
theorem keepsDepth_compile (t : Filter) :
    KeepsDepth (compiler.compile t).outcome t.nesting := by
  constructor
  · intro hdeep fragment hcompile
    rw [compile_outcome, report_eq_ok_iff, Filter.defects_eq_nil_iff] at hcompile
    have hnesting : 0 + t.nesting ≤ 32 := hcompile.1.1
    omega
  · intro max h
    cases compiler.arisesIn_of_compile h with
    | condition hmem hdefect =>
        cases Layout.concernsCondition_of_mem_propertyDefects hdefect
    | depth hdeep => rwa [Nat.zero_add] at hdeep

/-- A tree that has been read fails for its conditions only. -/
theorem concernsCondition_of_compile {v : Json} {t : Filter} (hread : Filter.ofJson v = .ok t)
    (hne : t.isEmpty = false) {e : Error} (h : (compiler.compile t).outcome = .error e) :
    e.concernsCondition = true := by
  obtain ⟨-, hnesting, hregular⟩ := (Filter.ofJson_eq_ok_iff v t).mp hread
  have hfull : t.isFull = true := t.isFull_of_regular hregular (List.isEmpty_eq_false_iff.mp hne)
  cases compiler.arisesIn_of_compile h with
  | condition _ hdefect => exact Layout.concernsCondition_of_mem_propertyDefects hdefect
  | depth hdeep =>
      have : 32 < 0 + t.nesting := hdeep
      omega
  | filter hlacking => cases hfull.symm.trans hlacking
  | connective _ hlacking => cases hfull.symm.trans hlacking

/-- A tree with nothing else wrong is refused for its depth exactly if
it is nested too deep. -/
theorem compile_eq_tooDeep_iff {t : Filter} (hregular : t.Regular) (hne : t.isEmpty = false)
    (hadmitted : ∀ p ∈ t.properties, compiler.layout.Admits p.1 p.2) :
    (compiler.compile t).outcome = .error (.tooDeep 32) ↔ 32 < t.nesting := by
  have hfull : t.isFull = true := t.isFull_of_regular hregular (List.isEmpty_eq_false_iff.mp hne)
  constructor
  · exact (compiler.keepsDepth_compile t).blames 32
  · intro hdeep
    cases houtcome : (compiler.compile t).outcome with
    | ok fragment => exact absurd houtcome ((compiler.keepsDepth_compile t).refuses hdeep fragment)
    | error e =>
        cases compiler.arisesIn_of_compile houtcome with
        | condition hmem hdefect =>
            rw [(Layout.propertyDefects_eq_nil_iff _ _ _).mpr (hadmitted _ hmem)] at hdefect
            cases hdefect
        | depth _ => rfl
        | filter hlacking => cases hfull.symm.trans hlacking
        | connective _ hlacking => cases hfull.symm.trans hlacking

/-- The checks that the compiler repeats find nothing in a filter that
has been read: compiling and building fail for a key, the shape of an
operand or a literal, and for nothing else. Reader and compiler stop at
the same depth. Neither lets anything pass that is nested deeper than
32 levels, neither blames the depth of anything else, the levels of a
value are those of the filter that is read from it, and where nothing
else is wrong both blame the depth from the same level on. -/
theorem only_conditions_fail :
    (∀ v t, Filter.ofJson v = .ok t → t.isEmpty = false →
      (∀ e, (compiler.compile t).outcome = .error e → e.concernsCondition = true) ∧
      ∀ e, (compiler.build (some t)).outcome = .error e → e.concernsCondition = true) ∧
    (∀ v, KeepsDepth (Filter.ofJson v) v.filterNesting) ∧
    (∀ t, KeepsDepth (compiler.compile t).outcome t.nesting) ∧
    (∀ v t, Filter.ofJson v = .ok t → v.filterNesting = t.nesting) ∧
    ∀ t : Filter, t.Regular → t.isEmpty = false →
      (∀ p ∈ t.properties, compiler.layout.Admits p.1 p.2) →
      (Filter.ofJson t.toJson = .error (.tooDeep 32) ↔ 32 < t.nesting) ∧
      ((compiler.compile t).outcome = .error (.tooDeep 32) ↔ 32 < t.nesting) := by
  refine ⟨?_, Filter.keepsDepth_ofJson, compiler.keepsDepth_compile, ?_, ?_⟩
  · intro v t hread hne
    have hcompile : ∀ e, (compiler.compile t).outcome = .error e → e.concernsCondition = true :=
      fun e h => compiler.concernsCondition_of_compile hread hne h
    refine ⟨hcompile, fun e h => hcompile e ?_⟩
    -- What is built is what is compiled, so the errors are the same.
    rw [compiler.build_outcome hne] at h
    cases houtcome : (compiler.compile t).outcome with
    | ok fragment =>
        rw [houtcome] at h
        cases h
    | error e' =>
        rw [houtcome] at h
        cases h
        rfl
  · intro v t hread
    obtain ⟨rfl, -, hregular⟩ := (Filter.ofJson_eq_ok_iff v t).mp hread
    exact t.filterNesting_toJson hregular
  · intro t hregular hne hadmitted
    refine ⟨?_, compiler.compile_eq_tooDeep_iff hregular hne hadmitted⟩
    rw [Filter.ofJson_eq_ofJsonAt, t.ofJsonAt_toJson 0 hregular (fun h => absurd h (Nat.lt_irrefl 0)),
      Nat.zero_add, show Filter.maxDepth = 32 from rfl]
    by_cases hnesting : t.nesting ≤ 32
    · rw [if_pos hnesting]
      exact ⟨nofun, fun hdeep => absurd hnesting (Nat.not_le.mpr hdeep)⟩
    · rw [if_neg hnesting]
      exact ⟨fun _ => Nat.lt_of_not_le hnesting, fun _ => rfl⟩

/-- The conditions of a tower are admitted, however high it is. -/
theorem admits_tower (n : Nat) :
    ∀ p ∈ (Filter.tower n).properties, awkward.layout.Admits p.1 p.2 := by
  have hadmits : ∀ key condition, awkward.layout.propertyDefects key condition = [] →
      awkward.layout.Admits key condition :=
    fun key condition => (Layout.propertyDefects_eq_nil_iff _ _ _).mp
  induction n with
  | zero =>
      show ∀ p ∈ [_, _], _
      rw [List.forall_mem_cons, List.forall_mem_singleton]
      exact ⟨hadmits _ _ rfl, hadmits _ _ rfl⟩
  | succ n ih =>
      rw [Filter.tower, Filter.properties, Filter.interpret_all]
      intro p hp
      simp only [List.map_cons, Clause.interpret_joined, Clause.interpret_property,
        List.map_nil, Interpretation.properties, Interpretation.joining, List.flatten_cons,
        List.flatten_nil, List.append_nil, List.mem_append, List.mem_singleton] at hp
      rcases hp with hp | rfl
      · exact ih p hp
      · exact hadmits _ _ rfl

set_option maxRecDepth 2000 in
/-- At 32 levels a filter is read and compiled, at 33 levels reader and
compiler blame the depth. A key with a blank in it is read, and it is
the compiler that finds it. -/
theorem only_conditions_fail_tower :
    (∃ t, Filter.ofJson (Filter.tower 32).toJson = .ok t ∧
      ∃ fragment, (awkward.compile t).outcome = .ok fragment) ∧
    Filter.ofJson (Filter.tower 33).toJson = .error (.tooDeep 32) ∧
    (awkward.compile (Filter.tower 33)).outcome = .error (.tooDeep 32) ∧
    ∃ t e, Filter.ofJson (.object [("a b", .bool true)]) = .ok t ∧
      (awkward.compile t).outcome = .error e ∧ e.concernsCondition = true := by
  obtain ⟨hconditions, -, -, -, hdepth⟩ := awkward.only_conditions_fail
  have hdeep := hdepth (Filter.tower 33) (Filter.regular_tower 33) rfl (admits_tower 33)
  have hnesting : 32 < (Filter.tower 33).nesting := by decide
  refine ⟨⟨_, rfl, _, rfl⟩, hdeep.1.mpr hnesting, hdeep.2.mpr hnesting, _,
    .invalidPropertyKey "a b", rfl, rfl, ?_⟩
  exact (hconditions (.object [("a b", .bool true)]) _ rfl rfl).1 _ rfl

end Compiler

end FilterSql
