import FilterSql.Filter.OfText

/-!
# `FilterSql.Proofs.Reading`: what a reader can complain about

Reading a filter from a JSON value can fail in many places, but not
with every error. A reader complains about the shape of the value and
about the operators in it (`Error.concernsReading`), or it complains
that the value is nested too deep, and then it is.

`FailsOnly P` says that a computation fails with errors of the kind `P`
if it fails at all, and every way to put computations together keeps
it. What reading can fail with is found by one induction over the
reader. Whose fault a failure is and whether the depth was to blame
follow from the kind of the error alone.

* `Json.filterNesting`: how deep connectives are nested in a value.
* `Filter.failsOnly_ofJson`: what reading a value can fail with.
-/

set_option autoImplicit false

namespace FilterSql

/-! ### Kinds of failures -/

section
variable {α β : Type}

/-- A failure is one of the kind `P`. -/
def FailsOnly (P : Error → Prop) (x : Except Error α) : Prop :=
  ∀ e, x = .error e → P e

namespace FailsOnly

variable {P Q : Error → Prop}

/-- A success is no failure. -/
theorem ok (a : α) : FailsOnly P (.ok a : Except Error α) := by
  intro e h
  cases h

/-- A failure of the right kind. -/
theorem error {e : Error} (h : P e) : FailsOnly P (.error e : Except Error α) := by
  intro e' he
  cases he
  exact h

/-- A sequence fails where one of its parts does. -/
theorem bind {x : Except Error α} {f : α → Except Error β} (hx : FailsOnly P x)
    (hf : ∀ a, FailsOnly P (f a)) : FailsOnly P (x >>= f) := by
  cases x with
  | error e => exact error (hx e rfl)
  | ok a => exact hf a

/-- A kind may be replaced by a wider one. -/
theorem mono {x : Except Error α} (hx : FailsOnly P x) (h : ∀ e, P e → Q e) : FailsOnly Q x :=
  fun e he => h e (hx e he)

end FailsOnly

end

/-! ### Depth in JSON -/

mutual

/-- How deep connectives are nested in a value that is taken for a
filter. -/
def Json.filterNesting : Json → Nat
  | .object fields => Json.entriesNesting fields
  | _ => 0

/-- How deep connectives are nested in the entries of a filter. -/
def Json.entriesNesting : List (String × Json) → Nat
  | [] => 0
  | (key, v) :: fields => max (Json.entryNesting key v) (Json.entriesNesting fields)

/-- How deep connectives are nested in one entry. A list behind the key
of a connective is one level. -/
def Json.entryNesting (key : String) : Json → Nat
  | .array items => if Clause.isConnectiveKey key then 1 + Json.itemsNesting items else 0
  | _ => 0

/-- How deep connectives are nested in the items of a connective. -/
def Json.itemsNesting : List Json → Nat
  | [] => 0
  | v :: items => max v.filterNesting (Json.itemsNesting items)

end

/-- The deepest entry counts. -/
theorem Json.entriesNesting_eq (fields : Json.Fields) :
    Json.entriesNesting fields
      = (fields.map fun field => Json.entryNesting field.1 field.2).foldr max 0 := by
  induction fields with
  | nil => rfl
  | cons field fields ih =>
      obtain ⟨key, v⟩ := field
      rw [Json.entriesNesting, ih, List.map_cons, List.foldr_cons]

/-- The deepest item counts. -/
theorem Json.itemsNesting_eq (items : List Json) :
    Json.itemsNesting items = (items.map Json.filterNesting).foldr max 0 := by
  induction items with
  | nil => rfl
  | cons v items ih => rw [Json.itemsNesting, ih, List.map_cons, List.foldr_cons]

/-! ### Failures of the reader -/

namespace Error

/-- The faults of a value that is read as a filter, its depth apart:
shapes, keys, operators, and numbers that are no integers. -/
def concernsReading : Error → Bool
  | notAnObject _ | emptyFilter | invalidPropertyKey _ | unsupportedConnective _
  | connectiveNotArray _ _ | emptyConnective _ | operatorShape _ _ | unexpectedConnective _
  | unknownOperator _ | nonIntegerNumber _ => true
  | _ => false

/-- The errors that are met in reading something that is nested as deep
as given. The depth is among them only beyond the limit. -/
inductive MetReading (nesting : Nat) : Error → Prop where
  | fault {e : Error} (concerns : e.concernsReading = true) : MetReading nesting e
  | depth (deep : Filter.maxDepth < nesting) : MetReading nesting (.tooDeep Filter.maxDepth)

/-- In something deeper the same errors can be met. -/
theorem MetReading.mono {nesting nesting' : Nat} (hle : nesting ≤ nesting') (e : Error)
    (h : e.MetReading nesting) : e.MetReading nesting' := by
  cases h with
  | fault hconcerns => exact .fault hconcerns
  | depth hdeep => exact .depth (Nat.lt_of_lt_of_le hdeep hle)

end Error

/-- A symbol that is no comparison is a connective or unknown. -/
theorem Comparison.failsOnly_parse (symbol : String) (nesting : Nat) :
    FailsOnly (Error.MetReading nesting) (Comparison.parse symbol) := by
  unfold parse
  split
  · exact .error (.fault rfl)
  · split
    · exact .ok _
    · exact .error (.fault rfl)

namespace Clause

/-- A condition has no depth. -/
theorem failsOnly_conditionOfJson (key : String) (v : Json) (nesting : Nat) :
    FailsOnly (Error.MetReading nesting) (conditionOfJson key v) := by
  unfold conditionOfJson
  split
  · split
    · exact .ok _
    · split
      · exact (Comparison.failsOnly_parse _ nesting).bind fun op => .ok _
      · exact .error (.fault rfl)
  · split
    · exact .error (.fault rfl)
    · exact .ok _
  · exact .ok _

/-- Neither has a property. -/
theorem failsOnly_propertyOfJson (key : String) (v : Json) (nesting : Nat) :
    FailsOnly (Error.MetReading nesting) (propertyOfJson key v) := by
  unfold propertyOfJson
  split
  · exact .error (.fault rfl)
  · exact (failsOnly_conditionOfJson key v nesting).bind fun condition => .ok _

end Clause

namespace Filter

/-- The check of the entries looks at the depth that they lie at. -/
theorem failsOnly_checkEntries (depth : Nat) (fields : Json.Fields) :
    FailsOnly (Error.MetReading depth) (checkEntries depth fields) := by
  unfold checkEntries
  split
  · rename_i hdeep
    exact .error (.depth hdeep)
  · split
    · exact .error (.fault rfl)
    · exact .ok ()

/-- An entry whose value is no array has no depth, whatever its key. -/
theorem failsOnly_single (key : String) (v : Json) (nesting : Nat) :
    FailsOnly (Error.MetReading nesting)
      (if Clause.isConnectiveKey key then
        match Connective.ofSymbol? key with
        | none => .error (.unsupportedConnective key)
        | some op => .error (.connectiveNotArray op v)
      else Clause.propertyOfJson key v) := by
  split
  · split
    · exact .error (.fault rfl)
    · exact .error (.fault rfl)
  · exact Clause.failsOnly_propertyOfJson key v nesting

mutual

/-- The entries of a filter. The recursion is that of the reader. -/
theorem failsOnly_clausesOfJson (depth : Nat) :
    ∀ fields : List (String × Json),
      FailsOnly (Error.MetReading (depth + Json.entriesNesting fields))
        (clausesOfJson depth fields)
  | [] => by
      rw [clausesOfJson]
      exact .ok []
  | (key, v) :: fields => by
      rw [clausesOfJson, Json.entriesNesting]
      refine .bind ((failsOnly_clauseOfJson depth key v).mono (.mono ?_)) fun c =>
        .bind ((failsOnly_clausesOfJson depth fields).mono (.mono ?_)) fun cs => .ok (c :: cs)
      · omega
      · omega

/-- One entry of a filter. -/
theorem failsOnly_clauseOfJson (depth : Nat) (key : String) :
    ∀ v : Json,
      FailsOnly (Error.MetReading (depth + Json.entryNesting key v)) (clauseOfJson depth key v)
  | .array items => by
      rw [clauseOfJson, Json.entryNesting]
      split
      · split
        · exact .error (.fault rfl)
        · split
          · exact .error (.fault rfl)
          · rw [← Nat.add_assoc]
            exact (failsOnly_partsOfJson (depth + 1) items).bind fun fs => .ok _
      · exact Clause.failsOnly_propertyOfJson key (.array items) _
  | .null => failsOnly_single key .null _
  | .bool b => failsOnly_single key (.bool b) _
  | .number n => failsOnly_single key (.number n) _
  | .string s => failsOnly_single key (.string s) _
  | .object fields => failsOnly_single key (.object fields) _

/-- The items of a connective. -/
theorem failsOnly_partsOfJson (depth : Nat) :
    ∀ items : List Json,
      FailsOnly (Error.MetReading (depth + Json.itemsNesting items)) (partsOfJson depth items)
  | [] => .ok []
  | .object fields :: items => by
      rw [partsOfJson, Json.itemsNesting, Json.filterNesting]
      refine .bind ((failsOnly_checkEntries depth fields).mono (.mono ?_)) fun _ =>
        .bind ((failsOnly_clausesOfJson depth fields).mono (.mono ?_)) fun cs =>
          .bind ((failsOnly_partsOfJson depth items).mono (.mono ?_)) fun fs => .ok _
      · omega
      · omega
      · omega
  | .null :: _ | .bool _ :: _ | .number _ :: _ | .string _ :: _ | .array _ :: _ =>
      .error (.fault rfl)

end

/-- Reading a value fails with a fault of the value, and with its depth
only if it is nested too deep. -/
theorem failsOnly_ofJson (v : Json) :
    FailsOnly (Error.MetReading v.filterNesting) (ofJson v) := by
  cases v with
  | object fields =>
      rw [ofJson, Json.filterNesting]
      have hclauses := failsOnly_clausesOfJson 0 fields
      rw [Nat.zero_add] at hclauses
      exact ((failsOnly_checkEntries 0 fields).mono (.mono (Nat.zero_le _))).bind fun _ =>
        hclauses.bind fun cs => .ok _
  | _ => exact .error (.fault rfl)

end Filter

end FilterSql
