import FilterSql.Proofs.Reference

/-!
# `FilterSql.Proofs.Grammar`: which JSON values are filters

Writing a filter as JSON is easy: `Filter.toJson` lists the clauses in
order. Reading is where things can go wrong, since a reader decides by
the first character of a key, by the tag of a date, by the number of
entries and by the form of a number what it has in front of it.

Reading accepts exactly what writing gives for well-formed filters,
and gives back the filter that was written. Both directions are one
statement, proved by one induction over the filter: a clause, and a
filter at any depth, is read from its own JSON form and from no other.

* `Filter.WellFormed`: the filters that can be written and read back.
* `mapM_eq_ok_iff_map`: a list is read item by item.
* `Filter.ofJsonAt_eq_ok_iff`: a filter at some depth is read from its
  own JSON form, if no check at that depth or below refuses it.
* `Filter.accepted_iff`: the checks that are made along the way, put
  together for the whole tree.
* `Filter.distinct_toJson_iff`: the keys of the JSON form are distinct
  where those of the clauses are.
-/

set_option autoImplicit false

namespace FilterSql

/-! ### Writing filters -/

/-- A condition as the value of its property: the bare value, or an
object with one operator. -/
def Condition.toJson : Condition → Json
  | equals v => v
  | compare op operand => .object [(op.symbol, operand)]

mutual

/-- A filter as an object with one entry for each clause. -/
def Filter.toJson : Filter → Json
  | .all cs => .object (Clause.toEntries cs)

/-- A clause as an entry of its filter. -/
def Clause.toEntry : Clause → String × Json
  | .joined op fs => (op.symbol, .array (Filter.toItems fs))
  | .property key condition => (key, condition.toJson)

/-- The entries of a filter. -/
def Clause.toEntries : List Clause → Json.Fields
  | [] => []
  | c :: cs => c.toEntry :: Clause.toEntries cs

/-- The items of a connective. -/
def Filter.toItems : List Filter → List Json
  | [] => []
  | f :: fs => f.toJson :: Filter.toItems fs

end

/-- Clauses are written one by one. -/
theorem Clause.toEntries_eq_map (cs : List Clause) :
    Clause.toEntries cs = cs.map Clause.toEntry := by
  induction cs with
  | nil => rfl
  | cons c cs ih => rw [Clause.toEntries, ih, List.map_cons]

/-- And so are filters. -/
theorem Filter.toItems_eq_map (fs : List Filter) :
    Filter.toItems fs = fs.map Filter.toJson := by
  induction fs with
  | nil => rfl
  | cons f fs ih => rw [Filter.toItems, ih, List.map_cons]

/-- A filter is written as an object with an entry for every clause. -/
@[simp] theorem Filter.toJson_all (cs : List Clause) :
    (Filter.all cs).toJson = .object (cs.map Clause.toEntry) := by
  rw [Filter.toJson, Clause.toEntries_eq_map]

/-- A join is written as an array under the symbol of its connective. -/
@[simp] theorem Clause.toEntry_joined (op : Connective) (fs : List Filter) :
    (Clause.joined op fs).toEntry = (op.symbol, .array (fs.map Filter.toJson)) := by
  rw [Clause.toEntry, Filter.toItems_eq_map]

/-- A property is written under its own key. -/
@[simp] theorem Clause.toEntry_property (key : String) (condition : Condition) :
    (Clause.property key condition).toEntry = (key, condition.toJson) := by
  rw [Clause.toEntry]

/-! ### Well-formed filters -/

/-- The filters that a clause joins. -/
def Clause.parts : Clause → List Filter
  | joined _ fs => fs
  | property _ _ => []

/-- The key that a clause has in JSON. -/
def Clause.jsonKey : Clause → String
  | joined op _ => op.symbol
  | property key _ => key

/-- `t.Within f` says that `f` is `t` itself or lies below it. -/
inductive Filter.Within : Filter → Filter → Prop where
  | here (t : Filter) : Within t t
  | deeper {t f g : Filter} {c : Clause} (clause : c ∈ t.clauses) (part : f ∈ c.parts)
    (within : Within f g) : Within t g

/-- A value that can stand bare behind its property: an object must be
a tagged date, and a number must be whole. -/
def Json.IsBare : Json → Prop
  | object fields => Fields.isTaggedDate fields = true
  | number n => n.integerText?.isSome = true
  | _ => True

/-- A clause that can be written and read back, if the filters below it
can. -/
inductive Clause.WellFormed : Clause → Prop where
  | property {key : String} {condition : Condition} (nonempty : key ≠ "")
    (plain : key.toList.head? ≠ some '$')
    (bare : ∀ v, condition = .equals v → v.IsBare) : WellFormed (.property key condition)
  | joined {op : Connective} {parts : List Filter} (nonempty : parts ≠ [])
    (full : ∀ f ∈ parts, f.clauses ≠ []) : WellFormed (.joined op parts)

/-- A filter that can be written and read back. -/
structure Filter.WellFormed (t : Filter) : Prop where
  /-- No two clauses of a filter have the same key. -/
  distinct : ∀ f, t.Within f → (f.clauses.map Clause.jsonKey).Nodup
  clauses : ∀ f, t.Within f → ∀ c ∈ f.clauses, c.WellFormed
  nesting : t.nesting ≤ 32

/-- A JSON value all of whose objects have distinct keys. -/
inductive Json.Distinct : Json → Prop where
  | null : Distinct .null
  | bool (b : Bool) : Distinct (.bool b)
  | number (n : Number) : Distinct (.number n)
  | string (s : String) : Distinct (.string s)
  | array {items : List Json} (items_distinct : ∀ v ∈ items, Distinct v) :
    Distinct (.array items)
  | object {fields : Fields} (keys : (fields.map Prod.fst).Nodup)
    (values : ∀ field ∈ fields, Distinct field.2) : Distinct (.object fields)

/-- What holds within a filter holds of it and within the filters that
its clauses join. -/
theorem Filter.forall_within_iff {P : Filter → Prop} (t : Filter) :
    (∀ g, t.Within g → P g) ↔
      P t ∧ ∀ c ∈ t.clauses, ∀ f ∈ c.parts, ∀ g, f.Within g → P g := by
  constructor
  · intro h
    exact ⟨h t (.here t), fun c hc f hf g hg => h g (.deeper hc hf hg)⟩
  · rintro ⟨hhere, hbelow⟩ g hg
    cases hg with
    | here => exact hhere
    | deeper hc hf hg => exact hbelow _ hc _ hf g hg

/-! ### Reading operators and conditions -/

/-- A connective is read from its own symbol. -/
theorem Connective.ofSymbol?_eq_some_iff (s : String) (op : Connective) :
    ofSymbol? s = some op ↔ s = op.symbol := by
  constructor
  · intro h
    unfold ofSymbol? at h
    split at h
    · cases h
      assumption
    · split at h
      · cases h
        assumption
      · cases h
  · rintro rfl
    cases op <;> rfl

/-- A comparison is read from its own symbol. -/
theorem Comparison.parse_eq_ok_iff (s : String) (op : Comparison) :
    parse s = .ok op ↔ s = op.symbol := by
  constructor
  · intro h
    unfold parse at h
    split at h
    · cases h
    · split at h
      · rename_i op' hfind
        cases h
        have hsymbol := List.find?_some hfind
        exact (of_decide_eq_true hsymbol).symm
      · cases h
  · rintro rfl
    cases op <;> rfl

/-- No operator is the tag of a date. -/
theorem Comparison.isTaggedDate_symbol (op : Comparison) (operand : Json) :
    Json.Fields.isTaggedDate [(op.symbol, operand)] = false := by
  cases op <;> rfl

namespace Clause

/-- A bare value is read as itself. -/
theorem conditionOfJson_eq_ok_equals_iff (key : String) (v w : Json) :
    conditionOfJson key v = .ok (.equals w) ↔ v = w ∧ w.IsBare := by
  cases v with
  | object fields =>
      cases htag : Json.Fields.isTaggedDate fields with
      | true =>
          simp only [conditionOfJson, htag, if_true, Except.ok.injEq, Condition.equals.injEq]
          constructor
          · rintro rfl
            exact ⟨rfl, htag⟩
          · exact And.left
      -- Without the tag an object is read as a comparison or not at all.
      | false =>
          simp only [conditionOfJson, htag, Bool.false_eq_true, if_false]
          constructor
          · intro h
            split at h
            · obtain ⟨op, -, hop⟩ := except_bind_eq_ok_iff.mp h
              cases hop
            · cases h
          · rintro ⟨rfl, hbare⟩
            rw [Json.IsBare, htag] at hbare
            cases hbare
  | number n =>
      cases hn : n.integerText? with
      | none =>
          simp only [conditionOfJson, hn, Option.isNone_none, if_true]
          constructor
          · intro h
            cases h
          · rintro ⟨rfl, hbare⟩
            rw [Json.IsBare, hn] at hbare
            cases hbare
      | some text =>
          simp only [conditionOfJson, hn, Option.isNone_some, Bool.false_eq_true, if_false,
            Except.ok.injEq, Condition.equals.injEq]
          constructor
          · rintro rfl
            exact ⟨rfl, by rw [Json.IsBare, hn]; rfl⟩
          · exact And.left
  | _ =>
      simp only [conditionOfJson, Except.ok.injEq, Condition.equals.injEq]
      constructor
      · rintro rfl
        exact ⟨rfl, trivial⟩
      · exact And.left

/-- An operator is read from an object with one entry. -/
theorem conditionOfJson_eq_ok_compare_iff (key : String) (v : Json) (op : Comparison)
    (operand : Json) :
    conditionOfJson key v = .ok (.compare op operand) ↔
      v = .object [(op.symbol, operand)] := by
  constructor
  · intro h
    cases v with
    | object fields =>
        simp only [conditionOfJson] at h
        split at h
        · cases h
        · split at h
          · obtain ⟨op', hparse, hop⟩ := except_bind_eq_ok_iff.mp h
            cases hop
            rw [(Comparison.parse_eq_ok_iff _ op).mp hparse]
          · cases h
    | number n =>
        simp only [conditionOfJson] at h
        split at h
        · cases h
        · cases h
    | _ => cases h
  · rintro rfl
    simp only [conditionOfJson, Comparison.isTaggedDate_symbol, Bool.false_eq_true, if_false,
      (Comparison.parse_eq_ok_iff _ op).mpr rfl, except_ok_bind]

/-- A condition is read from its own JSON form. -/
theorem conditionOfJson_eq_ok_iff (key : String) (v : Json) (condition : Condition) :
    conditionOfJson key v = .ok condition ↔
      v = condition.toJson ∧ ∀ w, condition = .equals w → w.IsBare := by
  cases condition with
  | equals w =>
      rw [conditionOfJson_eq_ok_equals_iff]
      simp [Condition.toJson]
  | compare op operand =>
      rw [conditionOfJson_eq_ok_compare_iff]
      simp [Condition.toJson]

end Clause

/-! ### Reading clauses -/

/-- A property is read from a key that is not empty and a condition. -/
theorem Clause.propertyOfJson_eq_ok_iff (key : String) (v : Json) (c : Clause) :
    propertyOfJson key v = .ok c ↔
      key ≠ "" ∧ ∃ condition, conditionOfJson key v = .ok condition ∧
        c = .property key condition := by
  unfold propertyOfJson
  by_cases hkey : key = ""
  · simp [hkey]
  · rw [if_neg hkey, except_bind_eq_ok_iff]
    simp [hkey, eq_comm (a := c)]

/-- The symbols of connectives look like ones. -/
theorem Clause.isConnectiveKey_symbol (op : Connective) :
    isConnectiveKey op.symbol = true := by
  cases op <;> rfl

namespace Filter

/-- Behind the key of a connective stands an array of filters. -/
theorem clauseOfJson_of_connective {key : String} (h : Clause.isConnectiveKey key = true)
    (depth : Nat) (v : Json) (c : Clause) :
    clauseOfJson depth key v = .ok c ↔
      ∃ op items fs, key = op.symbol ∧ v = .array items ∧ items ≠ [] ∧
        partsOfJson (depth + 1) items = .ok fs ∧ c = .joined op fs := by
  constructor
  · intro hc
    cases v with
    | array items =>
        simp only [clauseOfJson, h, if_true] at hc
        split at hc
        · cases hc
        · rename_i op hop
          split at hc
          · cases hc
          · rename_i hitems
            obtain ⟨fs, hfs, hclause⟩ := except_bind_eq_ok_iff.mp hc
            cases hclause
            exact ⟨op, items, fs, (Connective.ofSymbol?_eq_some_iff key op).mp hop, rfl,
              by simpa using hitems, hfs, rfl⟩
    | _ =>
        simp only [clauseOfJson, h, if_true] at hc
        split at hc
        · cases hc
        · cases hc
  · rintro ⟨op, items, fs, rfl, rfl, hne, hfs, rfl⟩
    have hop := (Connective.ofSymbol?_eq_some_iff op.symbol op).mpr rfl
    simp only [clauseOfJson, h, if_true, hop, List.isEmpty_iff, hne, if_false, hfs,
      except_ok_bind]

/-- Behind any other key stands a property. -/
theorem clauseOfJson_of_plain {key : String} (h : Clause.isConnectiveKey key = false)
    (depth : Nat) (v : Json) : clauseOfJson depth key v = Clause.propertyOfJson key v := by
  cases v <;> simp [clauseOfJson, h]

/-- A connective is read from its symbol and its parts. -/
theorem clauseOfJson_eq_ok_joined_iff (depth : Nat) (key : String) (v : Json)
    (op : Connective) (fs : List Filter) :
    clauseOfJson depth key v = .ok (.joined op fs) ↔
      key = op.symbol ∧ ∃ items, v = .array items ∧ items ≠ [] ∧
        partsOfJson (depth + 1) items = .ok fs := by
  constructor
  · intro h
    cases hkey : Clause.isConnectiveKey key with
    | false =>
        rw [clauseOfJson_of_plain hkey, Clause.propertyOfJson_eq_ok_iff] at h
        obtain ⟨-, condition, -, hclause⟩ := h
        cases hclause
    | true =>
        obtain ⟨op', items, fs', hop, hv, hne, hfs, hclause⟩ :=
          (clauseOfJson_of_connective hkey depth v _).mp h
        cases hclause
        exact ⟨hop, items, hv, hne, hfs⟩
  · rintro ⟨rfl, items, hv, hne, hfs⟩
    exact (clauseOfJson_of_connective (Clause.isConnectiveKey_symbol op) depth v _).mpr
      ⟨op, items, fs, rfl, hv, hne, hfs, rfl⟩

/-- A property is read from its own entry. -/
theorem clauseOfJson_eq_ok_property_iff (depth : Nat) (entry : String × Json) (key : String)
    (condition : Condition) :
    clauseOfJson depth entry.1 entry.2 = .ok (.property key condition) ↔
      entry = (Clause.property key condition).toEntry ∧
        (Clause.property key condition).WellFormed := by
  obtain ⟨key', v⟩ := entry
  rw [Clause.toEntry_property, Prod.mk.injEq]
  constructor
  · intro h
    cases hkey : Clause.isConnectiveKey key' with
    | false =>
        rw [clauseOfJson_of_plain hkey, Clause.propertyOfJson_eq_ok_iff] at h
        obtain ⟨hne, condition', hcondition, hclause⟩ := h
        cases hclause
        obtain ⟨hv, hbare⟩ := (Clause.conditionOfJson_eq_ok_iff _ v condition).mp hcondition
        exact ⟨⟨rfl, hv⟩, .property hne (of_decide_eq_false hkey) hbare⟩
    -- A key that looks like a connective never gives a property.
    | true =>
        obtain ⟨op, items, fs, -, -, -, -, hclause⟩ :=
          (clauseOfJson_of_connective hkey depth v _).mp h
        cases hclause
  · rintro ⟨⟨rfl, rfl⟩, hwell⟩
    cases hwell with
    | property hne hplain hbare =>
        rw [clauseOfJson_of_plain (decide_eq_false hplain), Clause.propertyOfJson_eq_ok_iff]
        exact ⟨hne, condition, (Clause.conditionOfJson_eq_ok_iff _ _ _).mpr ⟨rfl, hbare⟩, rfl⟩

end Filter

/-! ### Reading trees -/

section
variable {ε α β : Type}

/-- A reader that reads `b` from `g b` alone, and only if `P b`, reads a
list item by item. -/
theorem mapM_eq_ok_iff_map {f : α → Except ε β} {g : β → α} {P : β → Prop} {bs : List β}
    (h : ∀ b ∈ bs, ∀ a, f a = .ok b ↔ a = g b ∧ P b) (as : List α) :
    as.mapM f = .ok bs ↔ as = bs.map g ∧ ∀ b ∈ bs, P b := by
  induction as generalizing bs with
  | nil =>
      rw [List.mapM_nil]
      cases bs with
      | nil => simp [pure, Except.pure]
      | cons b bs => simp [pure, Except.pure]
  | cons a as ih =>
      rw [List.mapM_cons]
      cases bs with
      | nil =>
          simp only [except_bind_eq_ok_iff]
          simp [pure, Except.pure]
      | cons b bs =>
          rw [List.forall_mem_cons] at h
          simp only [except_bind_eq_ok_iff, pure, Except.pure, Except.ok.injEq, List.cons.injEq,
            List.map_cons, List.forall_mem_cons]
          constructor
          · rintro ⟨b', hb, bs', hbs, rfl, rfl⟩
            obtain ⟨ha, hP⟩ := (h.1 a).mp hb
            obtain ⟨has, hPs⟩ := (ih h.2).mp hbs
            exact ⟨⟨ha, has⟩, hP, hPs⟩
          · rintro ⟨⟨ha, has⟩, hP, hPs⟩
            exact ⟨b, (h.1 a).mpr ⟨ha, hP⟩, bs, (ih h.2).mpr ⟨has, hPs⟩, rfl, rfl⟩

end

/-- What is checked while a filter is read at the given depth. -/
def Interpretation.accepted : Interpretation (Nat → Prop) where
  condition key condition := fun _ => (Clause.property key condition).WellFormed
  filter clauses := fun depth =>
    depth ≤ Filter.maxDepth ∧ (0 < depth → clauses ≠ []) ∧ ∀ clause ∈ clauses, clause depth
  connective _ parts := fun depth => parts ≠ [] ∧ ∀ part ∈ parts, part (depth + 1)

namespace Filter

/-- The filter for a value at the given depth. -/
def ofJsonAt (depth : Nat) : Json → Except Error Filter
  | .object fields => do
    checkEntries depth fields
    let clauses ← clausesOfJson depth fields
    .ok (.all clauses)
  | v => .error (.notAnObject v)

/-- Reading starts at depth zero. -/
theorem ofJson_eq_ofJsonAt (v : Json) : ofJson v = ofJsonAt 0 v := by
  cases v <;> rfl

/-- The entries of a filter are read one by one. -/
theorem clausesOfJson_eq_mapM (depth : Nat) (fields : Json.Fields) :
    clausesOfJson depth fields
      = fields.mapM fun field => clauseOfJson depth field.1 field.2 := by
  induction fields with
  | nil => rfl
  | cons field fields ih =>
      obtain ⟨key, v⟩ := field
      rw [clausesOfJson, ih, List.mapM_cons]
      rfl

/-- The items of a connective are read one by one. -/
theorem partsOfJson_eq_mapM (depth : Nat) (items : List Json) :
    partsOfJson depth items = items.mapM (ofJsonAt depth) := by
  induction items with
  | nil => rfl
  | cons v items ih =>
      rw [List.mapM_cons]
      cases v with
      | object fields =>
          rw [partsOfJson, ih, ofJsonAt]
          cases checkEntries depth fields with
          | error e => rfl
          | ok _ => cases clausesOfJson depth fields <;> rfl
      | _ => rfl

/-- What is checked of the entries of a filter is checked of its
clauses. -/
theorem checkEntries_eq_ok_iff (depth : Nat) (fields : Json.Fields) :
    checkEntries depth fields = .ok () ↔
      depth ≤ maxDepth ∧ (0 < depth → fields ≠ []) := by
  unfold checkEntries
  by_cases hdepth : maxDepth < depth
  · have hdeep : ¬ depth ≤ maxDepth := Nat.not_le.mpr hdepth
    simp [hdepth, hdeep]
  · have hshallow : depth ≤ maxDepth := Nat.not_lt.mp hdepth
    cases fields with
    | nil => cases depth <;> simp [hdepth, hshallow]
    | cons field fields => simp [hdepth, hshallow]

/-- An object is a filter if it passes the checks and its entries are
clauses. -/
theorem ofJsonAt_object_eq_ok_iff (depth : Nat) (fields : Json.Fields) (cs : List Clause) :
    ofJsonAt depth (.object fields) = .ok (.all cs) ↔
      (depth ≤ maxDepth ∧ (0 < depth → fields ≠ [])) ∧
        clausesOfJson depth fields = .ok cs := by
  rw [← checkEntries_eq_ok_iff, ofJsonAt]
  cases checkEntries depth fields with
  | error e => simp
  | ok _ => simp [except_bind_eq_ok_iff]

/-- A filter is read from its own JSON form, and only if it passes the
checks at its depth and below. The induction is over the filter that is
read, so both directions go through together. -/
theorem ofJsonAt_eq_ok_iff (t : Filter) (depth : Nat) (v : Json) :
    ofJsonAt depth v = .ok t ↔ v = t.toJson ∧ t.interpret .accepted depth := by
  revert depth v
  refine Filter.induct (P := fun t => ∀ depth v, ofJsonAt depth v = .ok t ↔
      v = t.toJson ∧ t.interpret .accepted depth)
    (Q := fun c => ∀ depth (entry : String × Json),
      clauseOfJson depth entry.1 entry.2 = .ok c ↔
        entry = c.toEntry ∧ c.interpret .accepted depth)
    ?_ ?_ ?_ t
  · intro cs ih depth v
    have hclauses : ∀ fields, clausesOfJson depth fields = .ok cs ↔
        fields = cs.map Clause.toEntry ∧ ∀ c ∈ cs, c.interpret .accepted depth := by
      intro fields
      rw [clausesOfJson_eq_mapM]
      exact mapM_eq_ok_iff_map (fun c hc => ih c hc depth) fields
    rw [toJson_all, Filter.interpret_all]
    cases v with
    | object fields =>
        rw [ofJsonAt_object_eq_ok_iff, hclauses, Json.object.injEq]
        simp only [Interpretation.accepted, List.forall_mem_map, ne_eq, List.map_eq_nil_iff]
        constructor
        · rintro ⟨⟨hdepth, hne⟩, rfl, hcs⟩
          exact ⟨rfl, hdepth, by simpa using hne, hcs⟩
        · rintro ⟨rfl, hdepth, hne, hcs⟩
          exact ⟨⟨hdepth, by simpa using hne⟩, rfl, hcs⟩
    -- What is no object is not read, and no filter is written as it.
    | _ => simp [ofJsonAt]
  · intro op fs ih depth entry
    have hparts : ∀ items, partsOfJson (depth + 1) items = .ok fs ↔
        items = fs.map toJson ∧ ∀ f ∈ fs, f.interpret .accepted (depth + 1) := by
      intro items
      rw [partsOfJson_eq_mapM]
      exact mapM_eq_ok_iff_map (fun f hf => ih f hf (depth + 1)) items
    obtain ⟨key, v⟩ := entry
    rw [clauseOfJson_eq_ok_joined_iff, Clause.toEntry_joined, Clause.interpret_joined,
      Prod.mk.injEq]
    simp only [hparts, Interpretation.accepted, List.forall_mem_map, ne_eq,
      List.map_eq_nil_iff]
    constructor
    · rintro ⟨rfl, items, rfl, hne, rfl, hfs⟩
      exact ⟨⟨rfl, rfl⟩, by simpa using hne, hfs⟩
    · rintro ⟨⟨rfl, rfl⟩, hne, hfs⟩
      exact ⟨rfl, _, rfl, by simpa using hne, rfl, hfs⟩
  · intro key condition depth entry
    rw [Clause.interpret_property]
    exact clauseOfJson_eq_ok_property_iff depth entry key condition

/-! ### The checks of a whole tree -/

/-- The checks at a depth and below, put together: the connectives are
not nested too deep, and every clause within the filter is in order. A
clause is asked at depths that its filter has passed. -/
theorem accepted_iff (t : Filter) (depth : Nat) :
    t.interpret .accepted depth ↔
      depth + t.nesting ≤ maxDepth ∧ (0 < depth → t.clauses ≠ []) ∧
        ∀ f, t.Within f → ∀ c ∈ f.clauses, c.WellFormed := by
  revert depth
  refine Filter.induct (P := fun t => ∀ depth, t.interpret .accepted depth ↔
      depth + t.nesting ≤ maxDepth ∧ (0 < depth → t.clauses ≠ []) ∧
        ∀ f, t.Within f → ∀ c ∈ f.clauses, c.WellFormed)
    (Q := fun c => ∀ depth, depth ≤ maxDepth → (c.interpret .accepted depth ↔
      depth + c.interpret .nesting ≤ maxDepth ∧ c.WellFormed ∧
        ∀ f ∈ c.parts, ∀ g, f.Within g → ∀ d ∈ g.clauses, d.WellFormed))
    ?_ ?_ ?_ t
  · intro cs ih depth
    rw [forall_within_iff, Filter.nesting, Filter.interpret_all, Filter.interpret_all]
    simp only [Interpretation.accepted, Interpretation.nesting, add_foldr_max_le_iff,
      List.forall_mem_map, ne_eq, List.map_eq_nil_iff, Filter.clauses]
    constructor
    · rintro ⟨hdepth, hne, hcs⟩
      have hcs := fun c hc => (ih c hc depth hdepth).mp (hcs c hc)
      exact ⟨⟨hdepth, fun c hc => (hcs c hc).1⟩, hne, fun c hc => (hcs c hc).2.1,
        fun c hc => (hcs c hc).2.2⟩
    · rintro ⟨⟨hdepth, hnesting⟩, hne, hwell, hbelow⟩
      exact ⟨hdepth, hne, fun c hc => (ih c hc depth hdepth).mpr
        ⟨hnesting c hc, hwell c hc, hbelow c hc⟩⟩
  · intro op fs ih depth _
    rw [Clause.interpret_joined, Clause.interpret_joined]
    simp only [Interpretation.accepted, Interpretation.nesting, ← Nat.add_assoc, ne_eq,
      List.map_eq_nil_iff, List.forall_mem_map]
    -- It is the parts that check their depth, so the bound needs one of them.
    have hbound : fs ≠ [] → (depth + 1 + (fs.map (Filter.interpret .nesting)).foldr max 0
        ≤ maxDepth ↔ ∀ f ∈ fs, depth + 1 + f.nesting ≤ maxDepth) := by
      intro hne
      rw [add_foldr_max_le_iff_of_ne_nil (by simpa using hne), List.forall_mem_map]
      rfl
    constructor
    · rintro ⟨hne, hfs⟩
      have hfs := fun f hf => (ih f hf (depth + 1)).mp (hfs f hf)
      have hfull : ∀ f ∈ fs, f.clauses ≠ [] := fun f hf => (hfs f hf).2.1 (Nat.succ_pos depth)
      exact ⟨(hbound hne).mpr fun f hf => (hfs f hf).1, .joined hne hfull,
        fun f hf => (hfs f hf).2.2⟩
    · rintro ⟨hnesting, hwell, hbelow⟩
      cases hwell with
      | joined hne hfull =>
          refine ⟨hne, fun f hf => (ih f hf (depth + 1)).mpr ?_⟩
          exact ⟨(hbound hne).mp hnesting f hf, fun _ => hfull f hf, hbelow f hf⟩
  · intro key condition depth hdepth
    rw [Clause.interpret_property, Clause.interpret_property]
    simp [Interpretation.accepted, Interpretation.nesting, Clause.parts, hdepth]

end Filter

/-! ### Distinct keys -/

namespace Json

/-- Keys are distinct in an array if they are so in its items. -/
theorem distinct_array_iff (items : List Json) :
    (array items).Distinct ↔ ∀ v ∈ items, v.Distinct := by
  constructor
  · intro h
    cases h with
    | array hitems => exact hitems
  · exact .array

/-- An object also has distinct keys of its own. -/
theorem distinct_object_iff (fields : Fields) :
    (object fields).Distinct ↔
      (fields.map Prod.fst).Nodup ∧ ∀ field ∈ fields, field.2.Distinct := by
  constructor
  · intro h
    cases h with
    | object hkeys hvalues => exact ⟨hkeys, hvalues⟩
  · rintro ⟨hkeys, hvalues⟩
    exact .object hkeys hvalues

end Json

/-- An operator alone in its object shares its key with no other. -/
theorem Condition.distinct_toJson_iff (condition : Condition) :
    condition.toJson.Distinct ↔ condition.operand.Distinct := by
  cases condition with
  | equals v => rfl
  | compare op operand =>
      rw [toJson, Json.distinct_object_iff]
      simp [Condition.operand]

/-- The key under which a clause is written. -/
theorem Clause.toEntry_fst (c : Clause) : c.toEntry.1 = c.jsonKey := by
  cases c with
  | joined op fs => rw [toEntry_joined, jsonKey]
  | property key condition => rw [toEntry_property, jsonKey]

namespace Filter

/-- What holds of the members of some lists holds of the members of
each. -/
private theorem forall_mem_flatten_map {α β : Type} {xs : List α} {f : α → List β}
    {P : β → Prop} : (∀ b ∈ (xs.map f).flatten, P b) ↔ ∀ x ∈ xs, ∀ b ∈ f x, P b := by
  rw [← List.flatMap_def, List.forall_mem_flatMap]

/-- The keys of the JSON form are distinct if those of the clauses
within the filter are, and those inside of the operands. -/
theorem distinct_toJson_iff (t : Filter) :
    t.toJson.Distinct ↔
      (∀ f, t.Within f → (f.clauses.map Clause.jsonKey).Nodup) ∧
        ∀ p ∈ t.properties, p.2.operand.Distinct := by
  refine Filter.induct (P := fun t => t.toJson.Distinct ↔
      (∀ f, t.Within f → (f.clauses.map Clause.jsonKey).Nodup) ∧
        ∀ p ∈ t.properties, p.2.operand.Distinct)
    (Q := fun c => c.toEntry.2.Distinct ↔
      (∀ f ∈ c.parts, ∀ g, f.Within g → (g.clauses.map Clause.jsonKey).Nodup) ∧
        ∀ p ∈ c.interpret .properties, p.2.operand.Distinct)
    ?_ ?_ ?_ t
  · intro cs ih
    have hkeys : (cs.map Clause.toEntry).map Prod.fst = cs.map Clause.jsonKey := by
      rw [List.map_map]
      exact List.map_congr_left fun c _ => c.toEntry_fst
    rw [toJson_all, Json.distinct_object_iff, hkeys, List.forall_mem_map,
      (forall₂_congr ih).trans forall₂_and, forall_within_iff, Filter.properties,
      Filter.interpret_all, and_assoc]
    exact and_congr_right fun _ => and_congr_right fun _ => forall_mem_flatten_map.symm
  · intro op fs ih
    rw [Clause.toEntry_joined, Json.distinct_array_iff, List.forall_mem_map,
      (forall₂_congr ih).trans forall₂_and, Clause.interpret_joined]
    exact and_congr_right fun _ => forall_mem_flatten_map.symm
  · intro key condition
    rw [Clause.toEntry_property, Condition.distinct_toJson_iff, Clause.interpret_property]
    simp [Interpretation.properties, Interpretation.joining, Clause.parts]

/-! ### Reading undoes writing -/

/-- A filter is read from its own JSON form if it is in order, but for
keys that come twice: those are no matter of the reader. -/
theorem ofJson_eq_ok_iff (v : Json) (t : Filter) :
    ofJson v = .ok t ↔
      v = t.toJson ∧ t.nesting ≤ 32 ∧ ∀ f, t.Within f → ∀ c ∈ f.clauses, c.WellFormed := by
  rw [ofJson_eq_ofJsonAt, ofJsonAt_eq_ok_iff, accepted_iff, Nat.zero_add]
  simp only [Nat.lt_irrefl, false_implies, true_and]
  rfl

/-- Reading accepts exactly the JSON forms of well-formed filters, and
gives back the filter that was written. Every well-formed filter has
such a form, and no two values are read as the same filter. -/
theorem ofJson_undoes_toJson :
    (∀ (v : Json) (t : Filter), v.Distinct →
      (ofJson v = .ok t ↔ v = t.toJson ∧ t.WellFormed)) ∧
    (∀ t : Filter, t.WellFormed → (∀ p ∈ t.properties, p.2.operand.Distinct) →
      t.toJson.Distinct ∧ ofJson t.toJson = .ok t) ∧
    ∀ (v w : Json) (t : Filter), ofJson v = .ok t → ofJson w = .ok t → v = w := by
  refine ⟨?_, ?_, ?_⟩
  · intro v t hv
    rw [ofJson_eq_ok_iff]
    constructor
    · rintro ⟨rfl, hnesting, hclauses⟩
      exact ⟨rfl, ((distinct_toJson_iff t).mp hv).1, hclauses, hnesting⟩
    · rintro ⟨hv, hwell⟩
      exact ⟨hv, hwell.nesting, hwell.clauses⟩
  · intro t hwell hoperands
    exact ⟨(distinct_toJson_iff t).mpr ⟨hwell.distinct, hoperands⟩,
      (ofJson_eq_ok_iff _ t).mpr ⟨rfl, hwell.nesting, hwell.clauses⟩⟩
  · intro v w t hv hw
    rw [((ofJson_eq_ok_iff v t).mp hv).1, ((ofJson_eq_ok_iff w t).mp hw).1]

/-- A filter with connectives nested `n` deep over a date and a list. -/
def tower : Nat → Filter
  | 0 =>
    .all
      [.property "day" (.equals (.object
        [("type", .string "date"), ("date", .string "2024-01-31")])),
       .property "n" (.compare .oneOf (.array [.number (.integer 1), .string "a"]))]
  | n + 1 => .all [.joined .or [tower n], .property "k" (.equals (.bool true))]

/-- The JSON form of a tower has distinct keys at every level. -/
theorem distinct_toJson_tower (n : Nat) : (tower n).toJson.Distinct := by
  induction n with
  | zero => simp [tower, Json.distinct_object_iff, Json.distinct_array_iff, Condition.toJson,
      Comparison.symbol, Json.Distinct.string, Json.Distinct.number]
  | succ n ih => simp [tower, Json.distinct_object_iff, Json.distinct_array_iff,
      Condition.toJson, Connective.symbol, Json.Distinct.bool, ih]

set_option maxRecDepth 2000 in
/-- Connectives may be nested 32 deep and no deeper. -/
theorem ofJson_undoes_toJson_tower :
    (tower 32).toJson.Distinct ∧ (tower 32).WellFormed ∧
      ofJson (tower 32).toJson = .ok (tower 32) ∧
      ofJson (tower 33).toJson = .error (.tooDeep 32) := by
  have hread : ofJson (tower 32).toJson = .ok (tower 32) := rfl
  have hdeep : ofJson (tower 33).toJson = .error (.tooDeep 32) := rfl
  have hdistinct := distinct_toJson_tower 32
  have hwell := ((ofJson_undoes_toJson.1 _ (tower 32) hdistinct).mp hread).2
  exact ⟨hdistinct, hwell, hread, hdeep⟩

end Filter

end FilterSql
