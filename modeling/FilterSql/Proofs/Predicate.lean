import FilterSql.Proofs.Fragments
import FilterSql.Proofs.Outcome

/-!
# `FilterSql.Proofs.Predicate`: one condition on one property

A condition on a property is a comparison with literals. Everything
that can be wrong with it is wrong with its key, with the shape of its
operand, or with one of its literals, and is looked for in this order.
If nothing is, the key gives a selector, every literal gives a
placeholder, and `Sql.Backend.predicate` puts them together.

Both halves are stated here without failure: `Layout.propertyDefects`
lists what is wrong, and `Layout.propertyFragment` is the fragment
that is written when the list is empty.

* `Literal.encode_outcome`: one literal.
* `Layout.operation_outcome`: a comparison of a selected property.
* `Layout.property_outcome`: a condition with its key. Equality with a
  value and the operator for equality are one case of it.
-/

set_option autoImplicit false

namespace FilterSql

open Sql (Backend Cast)

/-! ### Literals -/

/-- The tag of a date is one entry. -/
theorem Json.Fields.isTaggedDate_iff (fields : Json.Fields) :
    isTaggedDate fields = true ↔ fields.get? "type" = some (.string "date") := by
  unfold isTaggedDate
  cases fields.get? "type" with
  | none => simp
  | some v => cases v <;> simp

namespace Literal

/-- What is wrong with the fields of a tagged date. -/
def dateDefects (fields : Json.Fields) : List Error :=
  match fields.get? "date" with
  | none | some .null => [.unsupportedValue (.object fields)]
  | some (.string s) => if s = "" then [.missingOperand] else []
  | some _ => []

/-- What is wrong with a value as a literal. -/
def defects : Json → List Error
  | .null => [.missingOperand]
  | .bool _ => []
  | .number n => if n.integerText?.isSome then [] else [.nonIntegerNumber n]
  | .string s => if s = "" then [.missingOperand] else []
  | .array items => [.unsupportedValue (.array items)]
  | .object fields =>
    if Json.Fields.isTaggedDate fields then dateDefects fields
    else [.unsupportedValue (.object fields)]

/-- The text that is bound for the date of a tagged date. -/
def dateText (fields : Json.Fields) : String :=
  match fields.get? "date" with
  | some (.string s) => s
  | some v => v.compact
  | none => ""

/-- The text that is bound for a value. -/
def text : Json → String
  | .bool b => if b then "true" else "false"
  | .number n => n.integerText?.getD ""
  | .string s => s
  | .object fields => dateText fields
  | _ => ""

/-- The type that a value is compared as. It follows from the kind of
the value alone. -/
def castOf : Json → Option Cast
  | .bool _ => some .boolean
  | .number _ => some .double
  | .object _ => some .date
  | _ => none

/-- What stands for a literal of the given type in SQL. -/
def placeholderFor (backend : Backend) : Option Cast → String
  | some cast => backend.typedPlaceholder cast
  | none => "?"

/-- The literal for a value with nothing wrong. -/
def ofJson (backend : Backend) (v : Json) : Literal where
  placeholder := placeholderFor backend (castOf v)
  param := text v
  cast := castOf v

/-- The date of a tagged date. -/
theorem dateParam_eq (fields : Json.Fields) :
    dateParam fields = report (dateDefects fields) (dateText fields) := by
  unfold dateParam dateDefects dateText
  cases fields.get? "date" with
  | none => rfl
  | some v =>
      cases v with
      | string s => by_cases hs : s = "" <;> simp [hs]
      | _ => rfl

/-- A literal is the text and the type of its value, unless something
is wrong with it. -/
theorem encode_outcome (backend : Backend) (v : Json) :
    (encode backend v).outcome = report (defects v) (ofJson backend v) := by
  cases v with
  | null => rfl
  | bool b => rfl
  | number n =>
      cases h : n.integerText? with
      | none => simp [encode, defects, h]
      | some t => simp [encode, defects, h, ofJson, typed, placeholderFor, castOf, text]
  | string s =>
      by_cases hs : s = ""
      · simp [encode, defects, hs]
      · simp only [encode, defects, hs, if_false, Traced.outcome_bind, Traced.outcome_emit,
          Traced.outcome_pure, except_ok_bind, report_nil]
        rfl
  | array items => rfl
  | object fields =>
      by_cases hd : Json.Fields.isTaggedDate fields = true
      · simp only [encode, defects, hd, if_true, Traced.outcome_bind,
          Traced.outcome_ofExcept, Traced.outcome_pure, dateParam_eq]
        exact report_bind_ok _ _ _
      · simp [encode, defects, hd]

/-- The literals of a list are encoded from left to right. -/
theorem encodeAll_eq_mapM (backend : Backend) (vs : List Json) :
    encodeAll backend vs = vs.mapM (encode backend) := by
  induction vs with
  | nil => rfl
  | cons v vs ih => rw [encodeAll, List.mapM_cons, ih]

/-- So their defects are met in this order. -/
theorem encodeAll_outcome (backend : Backend) (vs : List Json) :
    (encodeAll backend vs).outcome
      = report (vs.flatMap defects) (vs.map (ofJson backend)) := by
  rw [encodeAll_eq_mapM]
  exact Traced.outcome_mapM fun v _ => encode_outcome backend v

/-- The values that can be bound. -/
inductive Encodable : Json → Prop where
  | bool (b : Bool) : Encodable (.bool b)
  | number (n : Json.Number) (whole : n.integerText?.isSome = true) :
    Encodable (.number n)
  | string (s : String) (nonempty : s ≠ "") : Encodable (.string s)
  /-- A tagged date, with anything but `null` and the empty text for
  its date. -/
  | date (fields : Json.Fields) (v : Json)
    (tagged : Json.Fields.isTaggedDate fields = true)
    (present : fields.get? "date" = some v) (notNull : v ≠ .null)
    (nonempty : v ≠ .string "") : Encodable (.object fields)

/-- A date has nothing wrong if it is there and not empty. -/
theorem dateDefects_eq_nil_iff (fields : Json.Fields) :
    dateDefects fields = [] ↔
      ∃ v, fields.get? "date" = some v ∧ v ≠ .null ∧ v ≠ .string "" := by
  unfold dateDefects
  cases fields.get? "date" with
  | none => simp
  | some v => cases v <;> simp

/-- A value has nothing wrong if it can be bound. -/
theorem defects_eq_nil_iff (v : Json) : defects v = [] ↔ Encodable v := by
  constructor
  · intro h
    cases v with
    | null => cases h
    | bool b => exact .bool b
    | number n =>
        by_cases hwhole : n.integerText?.isSome = true
        · exact .number n hwhole
        · simp [defects, hwhole] at h
    | string s =>
        by_cases hs : s = ""
        · simp [defects, hs] at h
        · exact .string s hs
    | array items => cases h
    | object fields =>
        by_cases htag : Json.Fields.isTaggedDate fields = true
        · simp only [defects, htag, if_true] at h
          obtain ⟨v, hv, hnull, hempty⟩ := (dateDefects_eq_nil_iff fields).mp h
          exact .date fields v htag hv hnull hempty
        · simp [defects, htag] at h
  · intro h
    cases h with
    | bool b => rfl
    | number n hwhole => simp [defects, hwhole]
    | string s hs => simp [defects, hs]
    | date fields v htag hv hnull hempty =>
        simp only [defects, htag, if_true]
        exact (dateDefects_eq_nil_iff fields).mpr ⟨v, hv, hnull, hempty⟩

/-- A single literal shares its type with itself. -/
theorem sharedCast_singleton (l : Literal) : sharedCast [l] = l.cast := by
  cases h : l.cast with
  | none => simp [sharedCast, h]
  | some cast => simp [sharedCast, h]

end Literal

/-! ### Operands -/

/-- A list has as many members as a shape asks for. -/
inductive Shape.Fits {α : Type} : Shape → List α → Prop where
  | binary (a : α) : Fits .binary [a]
  | textSearch (a : α) : Fits .textSearch [a]
  | range (low high : α) : Fits .range [low, high]
  | list (a : α) (as : List α) : Fits .list (a :: as)

/-- Whether operands fit depends only on how many there are. -/
theorem Shape.Fits.map {α β : Type} {shape : Shape} {as : List α} (h : shape.Fits as)
    (f : α → β) : shape.Fits (as.map f) := by
  cases h with
  | binary a => exact .binary (f a)
  | textSearch a => exact .textSearch (f a)
  | range low high => exact .range (f low) (f high)
  | list a as => exact .list (f a) (as.map f)

namespace Comparison

/-- The literals that an operand holds. -/
def literals (op : Comparison) (operand : Json) : List Json :=
  match op.shape, operand with
  | .list, .array items => items
  | .range, .array items => items
  | .list, _ => []
  | .range, _ => []
  | _, v => [v]

/-- What is wrong with the shape of an operand. -/
def shapeDefects (op : Comparison) (operand : Json) : List Error :=
  match op.shape, operand with
  | .list, .array [] => [.emptyOperandList op]
  | .list, .array _ => []
  | .list, v => [.operandNotArray op v]
  | .range, .array [_, _] => []
  | .range, .array bounds => [.betweenArity bounds.length]
  | .range, v => [.operandNotArray op v]
  | _, _ => []

/-- An operand with the right shape holds the right number of
literals. -/
theorem fits_literals {op : Comparison} {operand : Json}
    (h : op.shapeDefects operand = []) : op.shape.Fits (op.literals operand) := by
  unfold shapeDefects at h
  unfold literals
  cases hshape : op.shape with
  | binary => exact .binary operand
  | textSearch => exact .textSearch operand
  | list =>
      cases operand with
      | array items =>
          cases items with
          | nil => simp [hshape] at h
          | cons v vs => exact .list v vs
      | _ => simp [hshape] at h
  | range =>
      cases operand with
      | array items =>
          match items with
          | [low, high] => exact .range low high
          | [] | [_] | _ :: _ :: _ :: _ => simp [hshape] at h
      | _ => simp [hshape] at h

end Comparison

namespace Condition

/-- Equality with a value is a comparison like the others. -/
def op : Condition → Comparison
  | equals _ => .equal
  | compare op _ => op

/-- What a property is compared with. -/
def operand : Condition → Json
  | equals v => v
  | compare _ operand => operand

/-- The literals of a condition in order. -/
def literals (condition : Condition) : List Json :=
  condition.op.literals condition.operand

/-- What is wrong with the shape of the operand. -/
def shapeDefects (condition : Condition) : List Error :=
  condition.op.shapeDefects condition.operand

/-- A condition with the right shape holds the right number of
literals. -/
theorem fits_literals {condition : Condition} (h : condition.shapeDefects = []) :
    condition.op.shape.Fits condition.literals :=
  Comparison.fits_literals h

end Condition

/-! ### The text -/

/-- The condition that compares a selected property with literals. A
comparison has as many literals as its shape asks for. -/
def Sql.Backend.predicate (backend : Backend) (selector : String) (op : Comparison)
    (literals : List Literal) : String :=
  let cast := backend.castSelector selector (Literal.sharedCast literals)
  match op.shape, literals with
  | .textSearch, [l] => backend.textSearch selector l.placeholder
  | .range, [low, high] =>
    cast ++ " " ++ op.keyword ++ " " ++ low.placeholder ++ " AND " ++ high.placeholder
  | .list, literals =>
    cast ++ " " ++ op.keyword ++ " (" ++
      Text.joined ", " (literals.map Literal.placeholder) ++ ")"
  | .binary, [l] => cast ++ " " ++ op.keyword ++ " " ++ l.placeholder
  | _, _ => ""

/-- A condition with the right number of literals has a text. -/
theorem Sql.Backend.predicate_ne_empty (backend : Backend) (selector : String)
    {op : Comparison} {literals : List Literal} (h : op.shape.Fits literals) :
    backend.predicate selector op literals ≠ "" := by
  unfold predicate
  cases hshape : op.shape with
  | binary =>
      rw [hshape] at h
      cases h with
      | binary l => simp
  | textSearch =>
      rw [hshape] at h
      cases h with
      | textSearch l => cases backend <;> simp [textSearch]
  | list =>
      rw [hshape] at h
      cases h with
      | list l ls => simp
  | range =>
      rw [hshape] at h
      cases h with
      | range low high => simp

namespace Layout

/-- What is wrong with a key. -/
def keyDefects (layout : Layout) (key : String) : List Error :=
  if layout.isSpecific key || isPath key then [] else [.invalidPropertyKey key]

/-- The text that selects a property with nothing wrong in its key. -/
def selectorText (layout : Layout) (key : String) : String :=
  if layout.isSpecific key then Sql.quotedName key
  else layout.backend.jsonValue layout.metadataColumn key

/-- What is wrong with a condition on a property: its key, the shape of
its operand, its literals. -/
def propertyDefects (layout : Layout) (key : String) (condition : Condition) :
    List Error :=
  layout.keyDefects key ++
    (condition.shapeDefects ++ condition.literals.flatMap Literal.defects)

/-- The fragment for a condition with nothing wrong. -/
def propertyFragment (layout : Layout) (key : String) (condition : Condition) :
    Fragment where
  sql := layout.backend.predicate (layout.selectorText key) condition.op
    (condition.literals.map (Literal.ofJson layout.backend))
  params := condition.literals.map Literal.text

/-- The fragment that compares a selected property with an operand. -/
def operationFragment (layout : Layout) (selector : String) (op : Comparison)
    (operand : Json) : Fragment where
  sql := layout.backend.predicate selector op
    ((op.literals operand).map (Literal.ofJson layout.backend))
  params := (op.literals operand).map Literal.text

/-- The selector of a key. -/
theorem selector_eq (layout : Layout) (key : String) :
    layout.selector key = report (layout.keyDefects key) (layout.selectorText key) := by
  unfold selector keyDefects selectorText
  cases hs : layout.isSpecific key with
  | true => rfl
  | false => cases hp : isPath key <;> rfl

/-- A comparison of a selected property looks at the shape of its
operand before it looks at any literal. The cases are the shapes; in a
shape that wants an array the operand is split further. -/
theorem operation_outcome (layout : Layout) (selector : String) (op : Comparison)
    (operand : Json) :
    (layout.operation selector op operand).outcome
      = report (op.shapeDefects operand ++ (op.literals operand).flatMap Literal.defects)
          (layout.operationFragment selector op operand) := by
  unfold operation operationFragment Sql.Backend.predicate
    Comparison.shapeDefects Comparison.literals
  cases hshape : op.shape with
  | textSearch =>
      simp only [Traced.outcome_bind, Traced.outcome_pure, Literal.encode_outcome,
        List.flatMap_singleton, List.nil_append]
      exact report_bind_ok _ _ _
  | binary =>
      -- One literal shares its type with itself, so both sides convert alike.
      simp only [Traced.outcome_bind, Traced.outcome_pure, Literal.encode_outcome,
        List.flatMap_singleton, List.nil_append, List.map_singleton, Literal.sharedCast_singleton]
      exact report_bind_ok _ _ _
  | list =>
      cases operand with
      | array items =>
          cases items with
          | nil => rfl
          | cons v vs =>
              simp only [Traced.outcome_bind, Traced.outcome_pure, Literal.encodeAll_outcome,
                List.nil_append, report_bind_ok, List.map_map]
              rfl
      | _ => rfl
  | range =>
      cases operand with
      | array items =>
          match items with
          | [] | [_] | _ :: _ :: _ :: _ => rfl
          | [low, high] =>
              -- The lower bound is looked at first, so its defects come first.
              simp only [Traced.outcome_bind, Traced.outcome_pure, Literal.encode_outcome,
                List.nil_append, List.flatMap_cons, List.flatMap_nil, List.append_nil]
              exact report_bind fun _ => report_bind_ok _ _ _
      | _ => rfl

/-- The fragment for equality with a value. -/
theorem propertyFragment_equals (layout : Layout) (key : String) (v : Json) :
    layout.propertyFragment key (.equals v)
      = ⟨layout.backend.castSelector (layout.selectorText key) (Literal.castOf v) ++
            " = " ++ Literal.placeholderFor layout.backend (Literal.castOf v),
          [Literal.text v]⟩ := by
  -- `" = "` is the word of the comparison between its two spaces.
  have hword : " = " = " " ++ "=" ++ " " := rfl
  rw [hword, String.append_assoc, String.append_assoc, ← String.append_assoc,
    ← String.append_assoc, ← String.append_assoc]
  show Fragment.mk (layout.backend.castSelector _ (Literal.sharedCast [_]) ++ _ ++ _ ++ _ ++ _) _
    = _
  rw [Literal.sharedCast_singleton]
  rfl

/-- A condition looks at its key, then at the shape of its operand,
then at its literals. -/
theorem property_outcome (layout : Layout) (key : String) (condition : Condition) :
    (layout.property key condition).outcome
      = report (layout.propertyDefects key condition)
          (layout.propertyFragment key condition) := by
  cases condition with
  | equals v =>
      simp only [property, equality, Traced.outcome_bind, Traced.outcome_ofExcept,
        Traced.outcome_pure, selector_eq, Literal.encode_outcome, report_bind_ok]
      refine report_bind fun _ => ?_
      -- A value has the right shape for equality, whatever it is.
      show report (Literal.defects v) _ = report ([] ++ [v].flatMap Literal.defects) _
      rw [List.nil_append, List.flatMap_singleton, propertyFragment_equals]
      rfl
  | compare op operand =>
      simp only [property, comparison, Traced.outcome_bind, Traced.outcome_ofExcept,
        Traced.outcome_emit, except_ok_bind, selector_eq, operation_outcome]
      exact report_bind fun _ => rfl

end Layout

end FilterSql
