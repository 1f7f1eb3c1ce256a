import FilterSql.Proofs.Grammar
import FilterSql.Proofs.Json.Draft
import FilterSql.Proofs.Placeholders

/-!
# `FilterSql.Proofs.LiteralPlaces`: where a written filter has its literals

The literals of a filter are the values of its properties, the operands
of its operators and the items of their lists. `Draft.literals` looks
for these places in a draft, by the keys alone and without reading a
filter. What it finds are the drafts of the literals of the filter that
is read, one for one and in the same order (`Draft.forall₂_literals`).
-/

set_option autoImplicit false

namespace FilterSql

/-- The literals of a clause, from left to right. -/
def Clause.literals (c : Clause) : List Json :=
  (c.interpret .properties).flatMap fun p => p.2.literals

/-- The literals of a property are those of its condition. -/
theorem Clause.literals_property (key : String) (condition : Condition) :
    (Clause.property key condition).literals = condition.literals := by
  rw [literals, interpret_property]
  simp [Interpretation.properties, Interpretation.joining]

/-- The literals of a join are those of its parts. -/
theorem Clause.literals_joined (op : Connective) (fs : List Filter) :
    (Clause.joined op fs).literals = fs.flatMap Filter.literals := by
  rw [literals, interpret_joined]
  simp only [Interpretation.properties, Interpretation.joining, ← List.flatMap_def,
    List.flatMap_assoc]
  rfl

/-- The literals of a filter are those of its clauses. -/
theorem Filter.literals_all (cs : List Clause) :
    (Filter.all cs).literals = cs.flatMap Clause.literals := by
  rw [literals, properties, interpret_all]
  simp only [Interpretation.properties, Interpretation.joining, ← List.flatMap_def,
    List.flatMap_assoc]
  rfl

namespace Json.Draft

/-! ### Places -/

/-- The keys of connectives. -/
def joins (key : String) : Bool :=
  key = "$and" || key = "$or"

/-- The operators that are followed by a list of literals. -/
def takesList (symbol : String) : Bool :=
  symbol = "$in" || symbol = "$nin" || symbol = "$between"

/-- Whether the entries are those of a tagged date. -/
def isTaggedDate (entries : List (String × Draft)) : Bool :=
  match entries.lookup "type" with
  | some (.string tag) => tag = "date"
  | _ => false

/-- The literals after an operator. -/
def operandLiterals (symbol : String) (d : Draft) : List Draft :=
  if takesList symbol then
    match d with
    | array items => items
    | _ => []
  else [d]

/-- The literals of an operator with its operand. -/
def operatorLiterals : List (String × Draft) → List Draft
  | [(symbol, d)] => operandLiterals symbol d
  | _ => []

/-- The literals that a property is compared with. -/
def conditionLiterals : Draft → List Draft
  | object entries =>
    if isTaggedDate entries then [object entries] else operatorLiterals entries
  | d => [d]

mutual

/-- The literals of a filter, from left to right. -/
def literals : Draft → List Draft
  | object entries => entriesLiterals entries
  | _ => []

/-- The literals of the entries of a filter. -/
def entriesLiterals : List (String × Draft) → List Draft
  | [] => []
  | (key, d) :: entries => entryLiterals key d ++ entriesLiterals entries

/-- The literals of one entry. -/
def entryLiterals (key : String) : Draft → List Draft
  | array items => if joins key then itemsLiterals items else [array items]
  | d => conditionLiterals d

/-- The literals of the filters that a connective joins. -/
def itemsLiterals : List Draft → List Draft
  | [] => []
  | d :: items => d.literals ++ itemsLiterals items

end

/-- Entries have their literals one after the other. -/
theorem entriesLiterals_eq_flatMap (entries : List (String × Draft)) :
    entriesLiterals entries = entries.flatMap fun entry => entryLiterals entry.1 entry.2 := by
  induction entries with
  | nil => rfl
  | cons entry entries ih => rw [entriesLiterals, ih, List.flatMap_cons]

/-- And so have items. -/
theorem itemsLiterals_eq_flatMap (items : List Draft) :
    itemsLiterals items = items.flatMap literals := by
  induction items with
  | nil => rfl
  | cons d items ih => rw [itemsLiterals, ih, List.flatMap_cons]

/-- A key that is not a connective's is that of a property. -/
theorem entryLiterals_of_not_joins {key : String} (h : joins key = false) (d : Draft) :
    entryLiterals key d = conditionLiterals d := by
  cases d <;> simp [entryLiterals, conditionLiterals, h]

/-! ### The literals of a condition -/

variable {d : Draft} {v : Json} {entries : List (String × Draft)} {fields : Fields}

/-- A key has related values on both sides, or none. -/
theorem rel_lookup (h : List.Forall₂ (Keyed Reads) entries fields) (key : String) :
    Option.Rel Reads (entries.lookup key) (fields.lookup key) := by
  induction h with
  | nil => exact .none
  | cons hentry _ ih =>
      obtain ⟨k, hread⟩ := hentry
      rw [List.lookup_cons, List.lookup_cons]
      cases key == k with
      | true => exact .some hread
      | false => exact ih

/-- A date is tagged on both sides, or on neither. -/
theorem isTaggedDate_eq (h : List.Forall₂ (Keyed Reads) entries fields) :
    isTaggedDate entries = Fields.isTaggedDate fields := by
  have hrel := rel_lookup h "type"
  unfold isTaggedDate Fields.isTaggedDate Fields.get?
  generalize entries.lookup "type" = entry at hrel ⊢
  generalize List.lookup "type" fields = field at hrel ⊢
  cases hrel with
  | none => rfl
  | some hread => cases hread <;> rfl

/-- The literals of an operand stand in the same places. -/
theorem forall₂_operandLiterals (op : Comparison) (h : d.Reads v) :
    List.Forall₂ Reads (operandLiterals op.symbol d) (op.literals v) := by
  cases op with
  | oneOf | noneOf | between =>
      cases h with
      | array hitems => exact hitems
      | _ => exact .nil
  | _ => exact .cons h .nil

/-- The draft of a condition has the drafts of its literals. -/
theorem forall₂_conditionLiterals {condition : Condition}
    (hbare : ∀ w, condition = .equals w → w.IsBare) (h : d.Reads condition.toJson) :
    List.Forall₂ Reads (conditionLiterals d) condition.literals := by
  cases condition with
  | equals w =>
      have hself : conditionLiterals d = [d] := by
        cases h with
        | object hentries =>
            have htagged : Fields.isTaggedDate _ = true := hbare _ rfl
            rw [conditionLiterals, isTaggedDate_eq hentries, htagged, if_pos rfl]
        | _ => rfl
      rw [hself]
      exact .cons h .nil
  | compare op operand =>
      rw [Condition.toJson] at h
      cases h with
      | object hentries =>
          -- No operator is called `type`, so one entry with an operator is not a tagged date.
          have hdate := isTaggedDate_eq hentries
          rw [Comparison.isTaggedDate_symbol] at hdate
          rw [conditionLiterals, hdate, if_neg Bool.false_ne_true]
          cases hentries with
          | cons hentry hnil =>
              cases hnil
              cases hentry with
              | mk _ hoperand => exact forall₂_operandLiterals op hoperand

/-! ### The literals of a filter -/

/-- Rows that are related part by part are related as wholes. -/
theorem forall₂_flatMap {α β γ δ : Type} {R : α → β → Prop} {S : γ → δ → Prop} {f : α → List γ}
    {g : β → List δ} {as : List α} {bs : List β} (h : List.Forall₂ R as bs)
    (hfg : ∀ a, ∀ b ∈ bs, R a b → List.Forall₂ S (f a) (g b)) :
    List.Forall₂ S (as.flatMap f) (bs.flatMap g) := by
  induction h with
  | nil => exact .nil
  | cons hab _ ih =>
      rw [List.flatMap_cons, List.flatMap_cons]
      exact List.rel_append (hfg _ _ List.mem_cons_self hab)
        (ih fun a b hb => hfg a b (List.mem_cons_of_mem _ hb))

/-- The draft of a filter that is read has the drafts of its literals,
from left to right. -/
theorem forall₂_literals (t : Filter) (d : Draft) (depth : Nat) (ht : t.interpret .accepted depth)
    (h : d.Reads t.toJson) : List.Forall₂ Reads d.literals t.literals := by
  revert d depth
  refine Filter.induct
    (P := fun t => ∀ d depth, t.interpret .accepted depth → Reads d t.toJson →
      List.Forall₂ Reads d.literals t.literals)
    (Q := fun c => ∀ entry depth, c.interpret .accepted depth → Keyed Reads entry c.toEntry →
      List.Forall₂ Reads (entryLiterals entry.1 entry.2) c.literals) ?_ ?_ ?_ t
  · intro cs ih d depth hcs h
    rw [Filter.interpret_all] at hcs
    rw [Filter.toJson_all] at h
    cases h with
    | object hentries =>
        rw [List.forall₂_map_right_iff] at hentries
        rw [literals, entriesLiterals_eq_flatMap, Filter.literals_all]
        refine forall₂_flatMap hentries fun entry c hc hentry => ?_
        exact ih c hc entry depth (hcs.2.2 _ (List.mem_map_of_mem hc)) hentry
  · intro op fs ih entry depth hfs h
    rw [Clause.interpret_joined] at hfs
    rw [Clause.toEntry_joined] at h
    cases h with
    | mk _ hparts =>
        cases hparts with
        | array hitems =>
            have hjoins : joins op.symbol = true := by cases op <;> rfl
            rw [List.forall₂_map_right_iff] at hitems
            dsimp only
            rw [entryLiterals, if_pos hjoins, itemsLiterals_eq_flatMap, Clause.literals_joined]
            refine forall₂_flatMap hitems fun item f hf hitem => ?_
            exact ih f hf item (depth + 1) (hfs.2 _ (List.mem_map_of_mem hf)) hitem
  · intro key condition entry depth hwell h
    rw [Clause.interpret_property] at hwell
    rw [Clause.toEntry_property] at h
    cases h with
    | mk _ hcondition =>
        cases hwell with
        | property _ plain bare =>
            -- The key of a property has no dollar sign in front.
            have hjoins : joins key = false := by
              by_contra hjoins
              rw [Bool.not_eq_false, joins, Bool.or_eq_true, decide_eq_true_eq,
                decide_eq_true_eq] at hjoins
              rcases hjoins with rfl | rfl <;> exact plain rfl
            dsimp only
            rw [entryLiterals_of_not_joins hjoins, Clause.literals_property]
            exact forall₂_conditionLiterals bare hcondition

end Json.Draft

end FilterSql
