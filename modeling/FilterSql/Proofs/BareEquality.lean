import FilterSql.Proofs.LiteralPlaces

/-!
# `FilterSql.Proofs.BareEquality`: a bare value is compared by equality

A property may be followed by the value that it should have or by the
operator `$eq` with that value. The two are read as different conditions
and compiled by different functions, and they come to the same. In a
tree nothing at all changes, whichever of the bare values get their
operator (`Filter.Matches Condition.SpelledOut`).

In a JSON value there is one difference, and it is in the error alone:
a bare number that is not whole is refused by the reader, and behind an
operator it gets as far as the compiler. So the two readings are compared
in both directions (`ReadsAlike`). What can be read with bare values can
be read with operators; and what is read with operators can be read with
bare values, if all literals in it can be bound.
-/

set_option autoImplicit false

namespace FilterSql

/-! ### Trees -/

/-- A condition, and the same with the operator of a bare value written
out, if it has one. -/
inductive Condition.SpelledOut : Condition → Condition → Prop where
  | same (c : Condition) : SpelledOut c c
  | equality (v : Json) : SpelledOut (.equals v) (.compare .equal v)

/-- A filter differs from itself by a relation that every condition has
to itself. -/
theorem Filter.Matches.refl {R : Condition → Condition → Prop} (hR : ∀ c, R c c) (t : Filter) :
    t.Matches R t := by
  refine Filter.induct (P := fun t => t.Matches R t) (Q := fun c => c.Matches R c) ?_ ?_ ?_ t
  · intro cs ih
    exact .all (List.forall₂_same.mpr ih)
  · intro op fs ih
    exact .joined op (List.forall₂_same.mpr ih)
  · intro key condition
    exact .property key (hR condition)

/-- The same for a clause. -/
theorem Clause.Matches.refl {R : Condition → Condition → Prop} (hR : ∀ c, R c c) (c : Clause) :
    c.Matches R c := by
  cases Filter.Matches.refl hR (.all [c]) with
  | all hclauses =>
      cases hclauses with
      | cons hc _ => exact hc

/-- Trees mean the same if their conditions do. -/
theorem Filter.Matches.interpret_eq {β : Type} {R : Condition → Condition → Prop}
    {I : Interpretation β} (h : ∀ key c d, R c d → I.condition key c = I.condition key d)
    {t u : Filter} (htu : t.Matches R u) : t.interpret I = u.interpret I := by
  refine htu.interpret h ?_ ?_
  · intro bs cs hbs
    rw [List.forall₂_eq_eq_eq] at hbs
    rw [hbs]
  · intro op bs cs hbs
    rw [List.forall₂_eq_eq_eq] at hbs
    rw [hbs]

/-- The operator of a bare value changes neither what is wrong with a
condition nor how it is written. -/
theorem Layout.property_spelledOut (layout : Layout) (key : String) {c d : Condition}
    (h : c.SpelledOut d) :
    layout.propertyDefects key c = layout.propertyDefects key d ∧
      layout.propertyFragment key c = layout.propertyFragment key d := by
  cases h with
  | same c => exact ⟨rfl, rfl⟩
  | equality v => exact ⟨rfl, rfl⟩

namespace Compiler

variable (compiler : Compiler) {t u : Filter}

/-- Trees with and without the operators of bare values are compiled
alike. -/
theorem compile_spelledOut (h : t.Matches Condition.SpelledOut u) :
    (compiler.compile t).outcome = (compiler.compile u).outcome := by
  have hdefects : t.defects compiler.layout 0 = u.defects compiler.layout 0 := by
    refine congrFun (h.interpret_eq ?_) 0
    intro key c d hcd
    exact funext fun _ => (compiler.layout.property_spelledOut key hcd).1
  have hrendered : t.rendered compiler.layout = u.rendered compiler.layout :=
    h.interpret_eq fun key c d hcd => (compiler.layout.property_spelledOut key hcd).2
  rw [compile_outcome, compile_outcome, hdefects, hrendered]

/-- They are also built alike, since they have as many clauses. -/
theorem build_spelledOut (h : t.Matches Condition.SpelledOut u) :
    (compiler.build (some t)).outcome = (compiler.build (some u)).outcome := by
  have hempty : t.isEmpty = u.isEmpty := by
    cases h with
    | all hclauses => cases hclauses <;> rfl
  cases ht : t.isEmpty with
  | true =>
      have hu : u.isEmpty = true := hempty ▸ ht
      rw [build, build, if_pos ht, if_pos hu]
  | false =>
      have hu : u.isEmpty = false := hempty ▸ ht
      rw [compiler.build_outcome ht, compiler.build_outcome hu, compiler.compile_spelledOut h]

end Compiler

/-! ### JSON values -/

/-- Whether a value behind a property stands for itself. An object does
so as a tagged date only. -/
def Json.standsAlone : Json → Bool
  | .object fields => Fields.isTaggedDate fields
  | _ => true

mutual

/-- A filter in JSON, and the same with the operators of some of its bare
values written out. -/
inductive Json.SpelledOut : Json → Json → Prop where
  | same (v : Json) : SpelledOut v v
  | object {fields fields' : Json.Fields}
    (entries : List.Forall₂ Json.EntrySpelledOut fields fields') :
    SpelledOut (.object fields) (.object fields')

/-- An entry of a filter in JSON, and the same with the operators of some
of its bare values written out. -/
inductive Json.EntrySpelledOut : String × Json → String × Json → Prop where
  | same (entry : String × Json) : EntrySpelledOut entry entry
  /-- The entry is a property with a bare value. -/
  | equality {key : String} {v : Json} (property : Clause.isConnectiveKey key = false)
    (bare : v.standsAlone = true) : EntrySpelledOut (key, v) (key, .object [("$eq", v)])
  /-- The entry is a connective, with filters in it. -/
  | parts {key : String} {items items' : List Json}
    (connective : Clause.isConnectiveKey key = true)
    (filters : List.Forall₂ Json.SpelledOut items items') :
    EntrySpelledOut (key, .array items) (key, .array items')

end

/-! ### Reading in both directions -/

/-- Two outcomes of reading. Where the first has a result the second has a
related one; and where the second has a sound result, the first has a
related one. -/
structure ReadsAlike {α : Type} (R : α → α → Prop) (sound : α → Prop) (x y : Except Error α) :
    Prop where
  spelled : ∀ a, x = .ok a → ∃ b, y = .ok b ∧ R a b
  bare : ∀ b, y = .ok b → sound b → ∃ a, x = .ok a ∧ R a b

namespace ReadsAlike

variable {α β : Type} {R : α → α → Prop} {S : β → β → Prop} {sound : α → Prop}
  {sound' : β → Prop}

theorem refl (h : ∀ a, R a a) (x : Except Error α) : ReadsAlike R sound x x where
  spelled a ha := ⟨a, ha, h a⟩
  bare b hb _ := ⟨b, hb, h b⟩

theorem ok {a b : α} (h : R a b) : ReadsAlike R sound (.ok a) (.ok b) where
  spelled a' ha := by
    cases ha
    exact ⟨b, rfl, h⟩
  bare b' hb _ := by
    cases hb
    exact ⟨a, rfl, h⟩

/-- Reading in sequence. A sound result of the whole comes from a sound
result of the first step. -/
theorem bind {x y : Except Error α} {f g : α → Except Error β} (h : ReadsAlike R sound x y)
    (hnext : ∀ a b, R a b → ReadsAlike S sound' (f a) (g b))
    (hsound : ∀ b c, g b = .ok c → sound' c → sound b) :
    ReadsAlike S sound' (x >>= f) (y >>= g) where
  spelled c hc := by
    obtain ⟨a, ha, hfa⟩ := except_bind_eq_ok_iff.mp hc
    obtain ⟨b, hb, hab⟩ := h.spelled a ha
    obtain ⟨d, hd, hcd⟩ := (hnext a b hab).spelled c hfa
    exact ⟨d, except_bind_eq_ok_iff.mpr ⟨b, hb, hd⟩, hcd⟩
  bare d hd hsd := by
    obtain ⟨b, hb, hgb⟩ := except_bind_eq_ok_iff.mp hd
    obtain ⟨a, ha, hab⟩ := h.bare b hb (hsound b d hgb hsd)
    obtain ⟨c, hc, hcd⟩ := (hnext a b hab).bare d hgb hsd
    exact ⟨c, except_bind_eq_ok_iff.mpr ⟨a, ha, hc⟩, hcd⟩

/-- Reading in sequence, with a first step that is the same. -/
theorem bind_same {x : Except Error α} {f g : α → Except Error β}
    (hnext : ∀ a, ReadsAlike S sound' (f a) (g a)) : ReadsAlike S sound' (x >>= f) (x >>= g) where
  spelled c hc := by
    obtain ⟨a, ha, hfa⟩ := except_bind_eq_ok_iff.mp hc
    obtain ⟨d, hd, hcd⟩ := (hnext a).spelled c hfa
    exact ⟨d, except_bind_eq_ok_iff.mpr ⟨a, ha, hd⟩, hcd⟩
  bare d hd hsd := by
    obtain ⟨a, ha, hga⟩ := except_bind_eq_ok_iff.mp hd
    obtain ⟨c, hc, hcd⟩ := (hnext a).bare d hga hsd
    exact ⟨c, except_bind_eq_ok_iff.mpr ⟨a, ha, hc⟩, hcd⟩

/-- Lists are read item by item. A list is sound if its members are. -/
theorem cons {x y : Except Error α} {xs ys : Except Error (List α)} (h : ReadsAlike R sound x y)
    (hrest : ReadsAlike (List.Forall₂ R) (fun bs => ∀ b ∈ bs, sound b) xs ys) :
    ReadsAlike (List.Forall₂ R) (fun bs => ∀ b ∈ bs, sound b)
      (x >>= fun a => xs >>= fun as => .ok (a :: as))
      (y >>= fun b => ys >>= fun bs => .ok (b :: bs)) := by
  refine h.bind (fun a b hab => hrest.bind (fun as bs has => .ok (.cons hab has)) ?_) ?_
  · intro bs cs hcs hsound
    cases hcs
    exact (List.forall_mem_cons.mp hsound).2
  · intro b cs hcs hsound
    obtain ⟨bs, -, hbs⟩ := except_bind_eq_ok_iff.mp hcs
    cases hbs
    exact (List.forall_mem_cons.mp hsound).1

end ReadsAlike

/-! ### One entry -/

/-- Every literal of a filter can be bound. -/
def Filter.Bindable (t : Filter) : Prop :=
  ∀ v ∈ t.literals, Literal.defects v = []

/-- Every literal of a clause can be bound. -/
def Clause.Bindable (c : Clause) : Prop :=
  ∀ v ∈ c.literals, Literal.defects v = []

/-- A filter is bindable if each of its clauses is. -/
theorem Filter.bindable_all_iff (cs : List Clause) :
    (Filter.all cs).Bindable ↔ ∀ c ∈ cs, c.Bindable := by
  rw [Bindable, Filter.literals_all]
  exact List.forall_mem_flatMap

/-- A join is bindable if each of its parts is. -/
theorem Clause.bindable_joined_iff (op : Connective) (fs : List Filter) :
    (Clause.joined op fs).Bindable ↔ ∀ f ∈ fs, f.Bindable := by
  rw [Bindable, Clause.literals_joined]
  exact List.forall_mem_flatMap

/-- A value that stands alone can be read bare, unless it is a number
that is not whole. -/
theorem Json.isBare_of_standsAlone {v : Json} (h : v.standsAlone = true)
    (hdefects : Literal.defects v = []) : v.IsBare := by
  cases v with
  | object fields => exact h
  | number n =>
      cases (Literal.defects_eq_nil_iff _).mp hdefects with
      | number _ hwhole => exact hwhole
  | _ => trivial

namespace Clause

variable {key : String} {v : Json} {c : Clause}

/-- A property with a value that stands alone is equality with it. -/
theorem propertyOfJson_standsAlone_iff (h : v.standsAlone = true) :
    propertyOfJson key v = .ok c ↔ key ≠ "" ∧ v.IsBare ∧ c = .property key (.equals v) := by
  rw [propertyOfJson_eq_ok_iff]
  constructor
  · rintro ⟨hkey, condition, hcondition, rfl⟩
    cases condition with
    | equals w =>
        obtain ⟨rfl, hbare⟩ := (conditionOfJson_eq_ok_equals_iff key v w).mp hcondition
        exact ⟨hkey, hbare, rfl⟩
    | compare op operand =>
        -- An operator with its operand is no tagged date.
        rw [(conditionOfJson_eq_ok_compare_iff key v op operand).mp hcondition, Json.standsAlone,
          Comparison.isTaggedDate_symbol] at h
        cases h
  · rintro ⟨hkey, hbare, rfl⟩
    exact ⟨hkey, _, (conditionOfJson_eq_ok_equals_iff key v v).mpr ⟨rfl, hbare⟩, rfl⟩

/-- A property with the operator for equality. -/
theorem propertyOfJson_equal_iff :
    propertyOfJson key (.object [("$eq", v)]) = .ok c ↔
      key ≠ "" ∧ c = .property key (.compare .equal v) := by
  have hcondition : conditionOfJson key (.object [("$eq", v)]) = .ok (.compare .equal v) :=
    (conditionOfJson_eq_ok_compare_iff key _ .equal v).mpr rfl
  rw [propertyOfJson_eq_ok_iff, hcondition]
  constructor
  · rintro ⟨hkey, condition, hequal, rfl⟩
    cases hequal
    exact ⟨hkey, rfl⟩
  · rintro ⟨hkey, rfl⟩
    exact ⟨hkey, _, rfl, rfl⟩

/-- A bare value and the same behind its operator. -/
theorem readsAlike_propertyOfJson (h : v.standsAlone = true) :
    ReadsAlike (Clause.Matches Condition.SpelledOut) Clause.Bindable (propertyOfJson key v)
      (propertyOfJson key (.object [("$eq", v)])) where
  spelled c hc := by
    obtain ⟨hkey, -, rfl⟩ := (propertyOfJson_standsAlone_iff h).mp hc
    exact ⟨_, propertyOfJson_equal_iff.mpr ⟨hkey, rfl⟩, .property key (.equality v)⟩
  bare d hd hbindable := by
    obtain ⟨hkey, rfl⟩ := propertyOfJson_equal_iff.mp hd
    have hdefects : Literal.defects v = [] := by
      refine hbindable v ?_
      rw [literals_property]
      exact List.mem_singleton_self v
    have hbare := Json.isBare_of_standsAlone h hdefects
    exact ⟨_, (propertyOfJson_standsAlone_iff h).mpr ⟨hkey, hbare, rfl⟩,
      .property key (.equality v)⟩

end Clause

/-- An entry with a bare value and the same with its operator. -/
theorem Filter.readsAlike_equality {key : String} {v : Json}
    (hkey : Clause.isConnectiveKey key = false) (h : v.standsAlone = true) (depth : Nat) :
    ReadsAlike (Clause.Matches Condition.SpelledOut) Clause.Bindable (clauseOfJson depth key v)
      (clauseOfJson depth key (.object [("$eq", v)])) := by
  rw [clauseOfJson_of_plain hkey, clauseOfJson_of_plain hkey]
  exact Clause.readsAlike_propertyOfJson h

/-! ### Whole trees -/

namespace Filter

/-- Nothing has to be compared where nothing differs. -/
private theorem readsAlike_clause (x : Except Error Clause) :
    ReadsAlike (Clause.Matches Condition.SpelledOut) Clause.Bindable x x :=
  .refl (Clause.Matches.refl Condition.SpelledOut.same) x

mutual

/-- The entries of a filter. The recursion is that of the reader. -/
theorem readsAlike_clausesOfJson (depth : Nat) :
    ∀ (fields : List (String × Json)) {fields' : Json.Fields},
      List.Forall₂ Json.EntrySpelledOut fields fields' →
      ReadsAlike (List.Forall₂ (Clause.Matches Condition.SpelledOut))
        (fun cs => ∀ c ∈ cs, c.Bindable) (clausesOfJson depth fields)
        (clausesOfJson depth fields')
  | [], _, h => by
      cases h
      exact .ok .nil
  | (key, v) :: fields, _, h => by
      cases h with
      | cons hentry hfields =>
          rw [clausesOfJson, clausesOfJson]
          exact (readsAlike_clauseOfJson depth key v hentry).cons
            (readsAlike_clausesOfJson depth fields hfields)
termination_by structural fields => fields

/-- One entry of a filter. -/
theorem readsAlike_clauseOfJson (depth : Nat) (key : String) :
    ∀ (v : Json) {entry : String × Json}, Json.EntrySpelledOut (key, v) entry →
      ReadsAlike (Clause.Matches Condition.SpelledOut) Clause.Bindable
        (clauseOfJson depth key v) (clauseOfJson depth entry.1 entry.2)
  | .array items, _, h => by
      cases h with
      | same _ => exact readsAlike_clause _
      | equality hkey hbare => exact readsAlike_equality hkey hbare depth
      | @parts _ _ items' hkey hitems =>
          have hempty : items.isEmpty = items'.isEmpty := by cases hitems <;> rfl
          simp only [clauseOfJson, hkey, if_true, hempty]
          -- Unknown connectives and those without items are refused on both sides.
          split
          · exact readsAlike_clause _
          · rename_i op _
            split
            · exact readsAlike_clause _
            · refine (readsAlike_partsOfJson (depth + 1) items hitems).bind ?_ ?_
              · intro fs gs hfs
                exact .ok (.joined op hfs)
              · intro gs d hd hbindable
                cases hd
                exact (Clause.bindable_joined_iff op gs).mp hbindable
  | .null, _, h | .bool _, _, h | .number _, _, h | .string _, _, h | .object _, _, h => by
      cases h with
      | same _ => exact readsAlike_clause _
      | equality hkey hbare => exact readsAlike_equality hkey hbare depth
termination_by structural v => v

/-- The items of a connective. -/
theorem readsAlike_partsOfJson (depth : Nat) :
    ∀ (items : List Json) {items' : List Json}, List.Forall₂ Json.SpelledOut items items' →
      ReadsAlike (List.Forall₂ (Filter.Matches Condition.SpelledOut))
        (fun fs => ∀ f ∈ fs, f.Bindable) (partsOfJson depth items) (partsOfJson depth items')
  | [], _, h => by
      cases h
      exact .ok .nil
  | v :: items, _, h => by
      cases h with
      | cons hv hitems =>
          rw [partsOfJson_eq_mapM, partsOfJson_eq_mapM, List.mapM_cons, List.mapM_cons,
            ← partsOfJson_eq_mapM, ← partsOfJson_eq_mapM]
          exact (readsAlike_ofJsonAt depth v hv).cons (readsAlike_partsOfJson depth items hitems)
termination_by structural items => items

/-- A filter at any depth. -/
theorem readsAlike_ofJsonAt (depth : Nat) :
    ∀ (v : Json) {w : Json}, v.SpelledOut w →
      ReadsAlike (Filter.Matches Condition.SpelledOut) Filter.Bindable (ofJsonAt depth v)
        (ofJsonAt depth w)
  | .object fields, _, h => by
      cases h with
      | same _ => exact .refl (Filter.Matches.refl Condition.SpelledOut.same) _
      | @object _ fields' hfields =>
          have hempty : fields.isEmpty = fields'.isEmpty := by cases hfields <;> rfl
          simp only [ofJsonAt, checkEntries, hempty]
          refine .bind_same fun _ => ?_
          refine (readsAlike_clausesOfJson depth fields hfields).bind ?_ ?_
          · intro cs ds hcs
            exact .ok (.all hcs)
          · intro ds t ht hbindable
            cases ht
            exact (Filter.bindable_all_iff ds).mp hbindable
  | .null, _, h | .bool _, _, h | .number _, _, h | .string _, _, h | .array _, _, h => by
      cases h
      exact .refl (Filter.Matches.refl Condition.SpelledOut.same) _
termination_by structural v => v

end

end Filter

namespace Compiler

variable (compiler : Compiler)

/-- A bare value is compared by equality, with its operator or without.
In a tree any of the bare values can be given the operator, and the
outcome is the same, errors included. In a JSON value this keeps whether
a clause is built, and which one. -/
theorem bare_values_are_equalities :
    (∀ t u : Filter, t.Matches Condition.SpelledOut u →
      (compiler.compile t).outcome = (compiler.compile u).outcome) ∧
    ∀ v w : Json, v.SpelledOut w → ∀ clause,
      (compiler.buildJson (some v)).outcome = .ok clause ↔
        (compiler.buildJson (some w)).outcome = .ok clause := by
  refine ⟨fun t u => compiler.compile_spelledOut, fun v w h clause => ?_⟩
  by_cases hv : v = .null
  · subst hv
    cases h
    rfl
  · have hw : w ≠ .null := by
      rintro rfl
      cases h
      exact hv rfl
    have hread := Filter.readsAlike_ofJsonAt 0 v h
    rw [← Filter.ofJson_eq_ofJsonAt, ← Filter.ofJson_eq_ofJsonAt] at hread
    rw [compiler.buildJson_of_ne_null hv, compiler.buildJson_of_ne_null hw, Traced.outcome_bind,
      Traced.outcome_bind, except_bind_eq_ok_iff, except_bind_eq_ok_iff]
    constructor
    · rintro ⟨t, ht, hbuild⟩
      obtain ⟨u, hu, htu⟩ := hread.spelled t ht
      exact ⟨u, hu, compiler.build_spelledOut htu ▸ hbuild⟩
    · rintro ⟨u, hu, hbuild⟩
      -- A clause has been built, so nothing is left for the reader to refuse.
      obtain ⟨t, ht, htu⟩ := hread.bare u hu (compiler.params_of_build hbuild).1
      exact ⟨t, ht, (compiler.build_spelledOut htu).symm ▸ hbuild⟩

/-- A tagged date and a number below a connective, and a bare value
beside it. -/
def bareFilter : Json :=
  .object
    [("$or", .array
      [.object [("day", .object [("type", .string "date"), ("date", .string "2024-01-31")])],
       .object [("n", .number (.integer 3))]]),
     ("k", .bool true)]

/-- How `bareFilter` is read. -/
def bareTree : Filter :=
  .all
    [.joined .or
      [.all [.property "day"
        (.equals (.object [("type", .string "date"), ("date", .string "2024-01-31")]))],
       .all [.property "n" (.equals (.number (.integer 3)))]],
     .property "k" (.equals (.bool true))]

/-- The values below the connective have got their operators. -/
def spelledFilter : Json :=
  .object
    [("$or", .array
      [.object [("day", .object
        [("$eq", .object [("type", .string "date"), ("date", .string "2024-01-31")])])],
       .object [("n", .object [("$eq", .number (.integer 3))])]]),
     ("k", .bool true)]

/-- One clause is built from both filters, and a value that cannot be
bound has the same error with its operator. -/
theorem bare_values_are_equalities_mixed :
    (∃ clause, (awkward.buildJson (some bareFilter)).outcome = .ok clause ∧
      (awkward.buildJson (some spelledFilter)).outcome = .ok clause ∧
      clause.params = ["2024-01-31", "3", "true"]) ∧
    ∃ e, (awkward.compile (.all [.property "k" (.equals .null)])).outcome = .error e ∧
      (awkward.compile (.all [.property "k" (.compare .equal .null)])).outcome = .error e := by
  constructor
  · have hspelled : bareFilter.SpelledOut spelledFilter := by
      refine .object (.cons (.parts rfl ?_) (.cons (.same _) .nil))
      exact .cons (.object (.cons (.equality rfl rfl) .nil))
        (.cons (.object (.cons (.equality rfl rfl) .nil)) .nil)
    obtain ⟨clause, hbuild, hparams⟩ :
        ∃ clause, (awkward.buildJson (some bareFilter)).outcome = .ok clause ∧
          clause.params = ["2024-01-31", "3", "true"] := by
      have hread : Filter.ofJson bareFilter = .ok bareTree := rfl
      rw [awkward.buildJson_of_ne_null (by simp [bareFilter]), hread, Traced.outcome_bind,
        Traced.outcome_ofExcept, except_ok_bind, awkward.build_outcome rfl]
      exact ⟨_, rfl, rfl⟩
    exact ⟨clause, hbuild,
      (awkward.bare_values_are_equalities.2 _ _ hspelled clause).mp hbuild, hparams⟩
  · refine ⟨_, rfl, ?_⟩
    exact (awkward.bare_values_are_equalities.1 _ _
      (.all (.cons (.property "k" (.equality .null)) .nil))).symm

end Compiler

end FilterSql
