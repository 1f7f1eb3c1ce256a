import FilterSql.Proofs.Names
import FilterSql.Proofs.Reference

/-!
# `FilterSql.Proofs.Noninterference`: the contents of literals stay out of the text

Take two filters that differ in the contents of their literals only: a
string stands where the other has a string, a date where the other has
a date, and so on. They compile to the same text. If one of them fails
so does the other, with the same error up to the value that it quotes.

A literal gets into the text through its type alone. The type decides
what the placeholder looks like, and the type that all literals of a
condition share decides how the column is converted.

* `Filter.Matches Condition.SameKinds`: filters that differ in the
  contents of their literals.
* `Sql.Backend.predicate_congr`: placeholders and types are all of a
  literal that a condition is written with.
* `Literal.Interchangeable`: what the proof asks of two literals. It
  also holds of two arrays, neither of which can be bound.
-/

set_option autoImplicit false

namespace FilterSql

open Sql (Backend Cast)

/-! ### Filters that differ in the contents of their literals -/

/-- Two literals of the same kind, both of which can be bound. -/
inductive Literal.SameKind : Json → Json → Prop where
  | bool (b b' : Bool) : SameKind (.bool b) (.bool b')
  | number {n n' : Json.Number} (whole : n.integerText?.isSome = true)
    (whole' : n'.integerText?.isSome = true) : SameKind (.number n) (.number n')
  | string {s s' : String} (nonempty : s ≠ "") (nonempty' : s' ≠ "") :
    SameKind (.string s) (.string s')
  | date {fields fields' : Json.Fields} (usable : Encodable (.object fields))
    (usable' : Encodable (.object fields')) : SameKind (.object fields) (.object fields')

/-- Two operands with literals of the same kinds in the same places. -/
inductive Json.SameKinds : Json → Json → Prop where
  | literal {v w : Json} (kind : Literal.SameKind v w) : SameKinds v w
  | list {vs ws : List Json} (kinds : List.Forall₂ Literal.SameKind vs ws) :
    SameKinds (.array vs) (.array ws)

/-- Two conditions that differ in the contents of their literals. -/
inductive Condition.SameKinds : Condition → Condition → Prop where
  | equals {v w : Json} (value : v.SameKinds w) : SameKinds (.equals v) (.equals w)
  | compare (op : Comparison) {v w : Json} (operand : v.SameKinds w) :
    SameKinds (.compare op v) (.compare op w)

/-- The same error, up to the value that it quotes. -/
inductive Error.Alike : Error → Error → Prop where
  | same (e : Error) : Alike e e
  | operandNotArray (op : Comparison) (v w : Json) :
    Alike (.operandNotArray op v) (.operandNotArray op w)
  | unsupportedValue (v w : Json) : Alike (.unsupportedValue v) (.unsupportedValue w)

/-- Errors that are alike are of one kind. -/
theorem Error.Alike.kind_eq {e e' : Error} (h : e.Alike e') : e.kind = e'.kind := by
  cases h <;> rfl

/-- Every error is like itself. -/
theorem Error.forall₂_alike_self (es : List Error) : List.Forall₂ Error.Alike es es :=
  List.forall₂_same.mpr fun e _ => .same e

/-! ### One literal in place of another -/

/-- Two values that are compared as the same type, and with which the
same is wrong. -/
structure Literal.Interchangeable (v w : Json) : Prop where
  cast : castOf v = castOf w
  defects : List.Forall₂ Error.Alike (defects v) (defects w)

/-- A literal can be replaced by one of the same kind. -/
theorem Literal.SameKind.interchangeable {v w : Json} (h : SameKind v w) :
    Interchangeable v w := by
  have hcast : castOf v = castOf w := by cases h <;> rfl
  have hencodable : Encodable v ∧ Encodable w := by
    cases h with
    | bool b b' => exact ⟨.bool b, .bool b'⟩
    | number hn hn' => exact ⟨.number _ hn, .number _ hn'⟩
    | string hs hs' => exact ⟨.string _ hs, .string _ hs'⟩
    | date hd hd' => exact ⟨hd, hd'⟩
  refine ⟨hcast, ?_⟩
  rw [(defects_eq_nil_iff v).mpr hencodable.1, (defects_eq_nil_iff w).mpr hencodable.2]
  exact .nil

/-- An array is no literal, whatever it holds. -/
theorem Literal.interchangeable_array (vs ws : List Json) :
    Interchangeable (.array vs) (.array ws) where
  cast := rfl
  defects := .cons (.unsupportedValue _ _) .nil

namespace Json.SameKinds

/-- Operands hold as many literals, and they can be replaced one by
one. -/
theorem literals {v w : Json} (h : v.SameKinds w) (op : Comparison) :
    List.Forall₂ Literal.Interchangeable (op.literals v) (op.literals w) := by
  unfold Comparison.literals
  cases h with
  | literal hkind =>
      cases op.shape with
      | binary | textSearch => exact .cons hkind.interchangeable .nil
      | list | range => cases hkind <;> exact .nil
  | list hkinds =>
      cases op.shape with
      -- Where one literal is expected an array is taken for it.
      | binary | textSearch => exact .cons (Literal.interchangeable_array _ _) .nil
      | list | range => exact hkinds.imp fun _ _ hkind => hkind.interchangeable

/-- The same is wrong with the shapes of the operands. -/
theorem shapeDefects {v w : Json} (h : v.SameKinds w) (op : Comparison) :
    List.Forall₂ Error.Alike (op.shapeDefects v) (op.shapeDefects w) := by
  unfold Comparison.shapeDefects
  cases h with
  | literal hkind =>
      cases op.shape with
      | binary | textSearch => exact .nil
      | list | range => cases hkind <;> exact .cons (.operandNotArray op _ _) .nil
  | @list vs ws hkinds =>
      have hlength := hkinds.length_eq
      cases op.shape with
      | binary | textSearch => exact .nil
      | list =>
          cases hkinds with
          | nil => exact .cons (.same _) .nil
          | cons _ _ => exact .nil
      | range =>
          -- Only the lengths are looked at, and they are the same.
          match vs, ws, hkinds with
          | [_, _], [_, _], _ => exact .nil
          | [], [], _ | [_], [_], _ => exact .cons (.same _) .nil
          | _ :: _ :: _ :: _, _ :: _ :: _ :: _, _ =>
              simp only [List.length_cons] at hlength ⊢
              rw [hlength]
              exact .cons (.same _) .nil

end Json.SameKinds

/-! ### The text of a condition -/

/-- Two literals that look the same in SQL. -/
structure Literal.SameForm (l l' : Literal) : Prop where
  placeholder : l.placeholder = l'.placeholder
  cast : l.cast = l'.cast

/-- What literals share follows from their types. -/
theorem Literal.sharedCast_congr {ls ls' : List Literal}
    (h : List.Forall₂ SameForm ls ls') : sharedCast ls = sharedCast ls' := by
  cases h with
  | nil => rfl
  | @cons l l' ls ls' hhead htail =>
      have hcasts : ls.map Literal.cast = ls'.map Literal.cast :=
        map_eq_map_of_forall₂ (htail.imp fun _ _ hform => hform.cast)
      -- Whether all others have a type is asked of the list of their types.
      have hall : ∀ cast, (ls.all fun other => other.cast = some cast)
          = ls'.all fun other => other.cast = some cast := by
        intro cast
        have hmap := congrArg (List.all · fun c => c = some cast) hcasts
        rwa [List.all_map, List.all_map] at hmap
      simp only [sharedCast, hhead.cast, hall]

/-- Placeholders and types are all of a literal that a condition is
written with. -/
theorem Sql.Backend.predicate_congr (backend : Backend) (selector : String) (op : Comparison)
    {ls ls' : List Literal} (h : List.Forall₂ Literal.SameForm ls ls') :
    backend.predicate selector op ls = backend.predicate selector op ls' := by
  have hplaceholders : ls.map Literal.placeholder = ls'.map Literal.placeholder :=
    map_eq_map_of_forall₂ (h.imp fun _ _ hform => hform.placeholder)
  unfold predicate
  rw [Literal.sharedCast_congr h]
  cases op.shape with
  | list => simp only [hplaceholders]
  | binary | textSearch =>
      match ls, ls', h with
      | [], [], _ => rfl
      | [l], [l'], .cons hl .nil => simp only [hl.placeholder]
      | _ :: _ :: _, _ :: _ :: _, _ => rfl
  | range =>
      match ls, ls', h with
      | [], [], _ | [_], [_], _ => rfl
      | [low, high], [low', high'], .cons hlow (.cons hhigh .nil) =>
          simp only [hlow.placeholder, hhigh.placeholder]
      | _ :: _ :: _ :: _, _ :: _ :: _ :: _, _ => rfl

/-- Two fragments with the same text and as many parameters. -/
structure Fragment.SameText (f g : Fragment) : Prop where
  sql : f.sql = g.sql
  length : f.params.length = g.params.length

namespace Condition.SameKinds

/-- Conditions that differ in the contents of their literals have the
same operator. -/
theorem op_eq {c d : Condition} (h : c.SameKinds d) : c.op = d.op := by
  cases h <;> rfl

/-- The operands of such conditions are of the same kinds. -/
theorem operand {c d : Condition} (h : c.SameKinds d) : c.operand.SameKinds d.operand := by
  cases h with
  | equals hvalue => exact hvalue
  | compare op hoperand => exact hoperand

/-- And so are their literals, one by one. -/
theorem literals {c d : Condition} (h : c.SameKinds d) :
    List.Forall₂ Literal.Interchangeable c.literals d.literals := by
  rw [Condition.literals, Condition.literals, ← h.op_eq]
  exact h.operand.literals c.op

/-- They are written as the same text, with as many parameters. -/
theorem propertyFragment {c d : Condition} (h : c.SameKinds d) (layout : Layout)
    (key : String) :
    (layout.propertyFragment key c).SameText (layout.propertyFragment key d) := by
  have hliterals := h.literals
  have hforms : List.Forall₂ Literal.SameForm
      (c.literals.map (Literal.ofJson layout.backend))
      (d.literals.map (Literal.ofJson layout.backend)) := by
    rw [List.forall₂_map_left_iff, List.forall₂_map_right_iff]
    refine hliterals.imp fun v w hvw => ⟨?_, hvw.cast⟩
    exact congrArg (Literal.placeholderFor layout.backend) hvw.cast
  constructor
  · simp only [Layout.propertyFragment, ← h.op_eq]
    exact layout.backend.predicate_congr _ _ hforms
  · simpa [Layout.propertyFragment] using hliterals.length_eq

/-- The same is wrong with them. -/
theorem propertyDefects {c d : Condition} (h : c.SameKinds d) (layout : Layout)
    (key : String) :
    List.Forall₂ Error.Alike (layout.propertyDefects key c) (layout.propertyDefects key d) := by
  have hkey := Error.forall₂_alike_self (layout.keyDefects key)
  have hshape : List.Forall₂ Error.Alike c.shapeDefects d.shapeDefects := by
    rw [Condition.shapeDefects, Condition.shapeDefects, ← h.op_eq]
    exact h.operand.shapeDefects c.op
  have hliterals : List.Forall₂ Error.Alike (c.literals.flatMap Literal.defects)
      (d.literals.flatMap Literal.defects) :=
    List.rel_flatMap h.literals fun _ _ hvw => hvw.defects
  exact List.rel_append hkey (List.rel_append hshape hliterals)

end Condition.SameKinds

/-! ### The text of a filter -/

/-- Joins look at the texts, and at the parameters only to append
them. -/
theorem Fragment.SameText.joined (op : Connective) (fs gs : List Fragment)
    (h : List.Forall₂ Fragment.SameText fs gs) :
    (Fragment.joined op fs).SameText (Fragment.joined op gs) := by
  have hsql : fs.map Fragment.sql = gs.map Fragment.sql :=
    map_eq_map_of_forall₂ (h.imp fun _ _ hfg => hfg.sql)
  have hlengths : fs.map (List.length ∘ Fragment.params)
      = gs.map (List.length ∘ Fragment.params) :=
    map_eq_map_of_forall₂ (h.imp fun _ _ hfg => hfg.length)
  constructor
  · simp only [Fragment.joined, hsql]
  · simp only [Fragment.joined, List.length_flatten, List.map_map, hlengths]

namespace Filter

variable {t u : Filter}

/-- Filters that differ in the contents of their literals have the same
text, with as many parameters. -/
theorem rendered_of_sameKinds (h : t.Matches Condition.SameKinds u) (layout : Layout) :
    (t.rendered layout).SameText (u.rendered layout) :=
  h.interpret (fun key _ _ hcd => hcd.propertyFragment layout key)
    (Fragment.SameText.joined .and) Fragment.SameText.joined

/-- The same is wrong with them, at every depth. -/
theorem defects_of_sameKinds (h : t.Matches Condition.SameKinds u) (layout : Layout)
    (depth : Nat) :
    List.Forall₂ Error.Alike (t.defects layout depth) (u.defects layout depth) := by
  have hempty : ∀ {ds es : List (Nat → List Error)},
      List.Forall₂ (fun d e => ∀ depth, List.Forall₂ Error.Alike (d depth) (e depth)) ds es →
        ds.isEmpty = es.isEmpty := by
    intro ds es hlist
    cases hlist <;> rfl
  have hall := h.interpret (I := .defects layout) (J := .defects layout)
    (S := fun d e => ∀ depth, List.Forall₂ Error.Alike (d depth) (e depth))
    (fun key c d hcd _ => hcd.propertyDefects layout key)
    (by
      intro ds es hlist depth
      simp only [Interpretation.defects, hempty hlist]
      refine List.rel_append (Error.forall₂_alike_self _) ?_
      refine List.rel_append (Error.forall₂_alike_self _) ?_
      exact List.rel_flatMap hlist fun _ _ hde => hde depth)
    (by
      intro op ds es hlist depth
      simp only [Interpretation.defects, hempty hlist]
      refine List.rel_append (Error.forall₂_alike_self _) ?_
      exact List.rel_flatMap hlist fun _ _ hde => hde (depth + 1))
  exact hall depth

end Filter

namespace Compiler

variable (compiler : Compiler)

/-- The contents of literals do not get into the text. Two filters that
differ in them only both compile, to the same text with as many
parameters, or both fail, with errors of the same kind that differ in
nothing but a value that they quote. -/
theorem literals_stay_out (t u : Filter) (h : t.Matches Condition.SameKinds u) :
    (∃ f g, (compiler.compile t).outcome = .ok f ∧ (compiler.compile u).outcome = .ok g ∧
      f.sql = g.sql ∧ f.params.length = g.params.length) ∨
    ∃ e e', (compiler.compile t).outcome = .error e ∧
      (compiler.compile u).outcome = .error e' ∧ e.Alike e' ∧ e.kind = e'.kind := by
  have htext := Filter.rendered_of_sameKinds h compiler.layout
  have hdefects := Filter.defects_of_sameKinds h compiler.layout 0
  rw [compile_outcome, compile_outcome]
  generalize t.defects compiler.layout 0 = ds, u.defects compiler.layout 0 = es at hdefects ⊢
  cases hdefects with
  -- Nothing is wrong with either, or the first thing wrong is alike.
  | nil => exact .inl ⟨_, _, rfl, rfl, htext.sql, htext.length⟩
  | cons hhead _ => exact .inr ⟨_, _, rfl, rfl, hhead, hhead.kind_eq⟩

/-- A filter with a date and a list, to be filled in. -/
def datedFilter (day : Json) (name : String) : Filter :=
  .all
    [.property "day" (.compare .greater (.object [("type", .string "date"), ("date", day)])),
     .joined .or [.all [.property "name" (.compare .oneOf (.array [.string name]))]]]

/-- Quotes, a comment and a placeholder in a string change nothing, and
neither does a date that is given as a number. -/
theorem literals_stay_out_dated :
    ∃ t u f g, t.Matches Condition.SameKinds u ∧
      (awkward.compile t).outcome = .ok f ∧ (awkward.compile u).outcome = .ok g ∧
      f.sql = g.sql ∧ f.params = ["2024-01-31", "x"] ∧
      g.params = ["7", "' OR 1=1; --?"] := by
  have hmatches : (datedFilter (.string "2024-01-31") "x").Matches Condition.SameKinds
      (datedFilter (.number (.integer 7)) "' OR 1=1; --?") := by
    have hday := Literal.SameKind.date
      (.date [("type", .string "date"), ("date", .string "2024-01-31")] _ rfl rfl nofun
        (by simp))
      (.date [("type", .string "date"), ("date", .number (.integer 7))] _ rfl rfl nofun nofun)
    have hname : Literal.SameKind (.string "x") (.string "' OR 1=1; --?") :=
      .string (by decide) (by decide)
    have hlist := Condition.SameKinds.compare .oneOf (.list (.cons hname .nil))
    exact .all (.cons (.property "day" (.compare .greater (.literal hday)))
      (.cons (.joined .or (.cons (.all (.cons (.property "name" hlist) .nil)) .nil)) .nil))
  rcases awkward.literals_stay_out _ _ hmatches with
    ⟨f, g, hf, hg, hsql, -⟩ | ⟨e, e', he, -⟩
  · refine ⟨_, _, f, g, hmatches, hf, hg, hsql, ?_, ?_⟩
    · cases hf
      rfl
    · cases hg
      rfl
  · cases he

end Compiler

end FilterSql
