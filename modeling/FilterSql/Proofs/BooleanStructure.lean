import FilterSql.Proofs.Placeholders
import FilterSql.Proofs.PredicateText

/-!
# `FilterSql.Proofs.BooleanStructure`: the text means what the tree means

A filter is a tree of connectives, and its text is a flat row of
characters in which one fragment is never put into parentheses: a bare
disjunction or a bare `BETWEEN` may travel up through several levels
before it meets a neighbour. Reading the text back gives the tree
again, with its joins of one part left out, whatever the names of the
columns hold.

Parameters are bound to placeholders by position, so the leaves of
what is read are fragments: a text with the parameters that it takes.

* `Fragment.read`: the formula of a fragment.
* `Sql.reads_joinedText`: joined texts are read as joined formulas.
* `Compiler.means_compile`: a compiled filter.
-/

set_option autoImplicit false

namespace FilterSql

open Sql (placeholders Reads)

/-! ### Reading fragments -/

/-- Runs one after the other, each on the parameters that those before
it have left. -/
def Params.inTurn {γ : Type} : List (Params → γ × Params) → Params → List γ × Params
  | [], params => ([], params)
  | run :: runs, params =>
    let (c, rest) := run params
    let (cs, rest) := inTurn runs rest
    (c :: cs, rest)

/-- Gives every leaf as many parameters as it has placeholders, from
left to right. What is left over is returned too. -/
def Formula.supplied : Formula String → Params → Formula Fragment × Params :=
  fold
    (fun text params =>
      (.leaf ⟨text, params.take (placeholders text)⟩, params.drop (placeholders text)))
    (fun op runs params =>
      let (φs, rest) := Params.inTurn runs params
      (.joined op φs, rest))

/-- A leaf takes as many parameters as it has placeholders. -/
theorem Formula.supplied_leaf (text : String) (params : Params) :
    (Formula.leaf text).supplied params
      = (.leaf ⟨text, params.take (placeholders text)⟩, params.drop (placeholders text)) := by
  rw [supplied, fold_leaf]

/-- The parts of a join take their parameters in turn. -/
theorem Formula.supplied_joined (op : Connective) (φs : List (Formula String))
    (params : Params) :
    (Formula.joined op φs).supplied params
      = (.joined op (Params.inTurn (φs.map supplied) params).1,
          (Params.inTurn (φs.map supplied) params).2) := by
  rw [supplied, fold_joined]

/-- The formula of a fragment, with the parameters at its leaves;
`none` if the text cannot be read or parameters are left over. -/
def Fragment.read (fragment : Fragment) : Option (Formula Fragment) :=
  match Sql.read fragment.sql with
  | none => none
  | some φ =>
    let (ψ, rest) := φ.supplied fragment.params
    if rest.isEmpty then some ψ else none

/-- The truth value of a fragment whose leaves have these. -/
def Fragment.eval {α : Type} (logic : Logic α) (v : Fragment → α) (fragment : Fragment) :
    Option α :=
  fragment.read.map (Formula.eval logic v)

/-! ### Joined texts -/

namespace Sql

/-- A text in parentheses is one group. -/
theorem phrase_parenthesized {text : String} {is : List Item} (h : Phrase text.toList is) :
    Phrase (Fragment.parenthesized text).toList [closed is] := by
  have htext : (Fragment.parenthesized text).toList = '(' :: (text.toList ++ [')']) := by
    simp [Fragment.parenthesized]
  rw [htext]
  exact h.group

/-- Texts in parentheses with a connective between them. -/
theorem phrase_joinedItems (op : Connective) {texts : List String}
    {φs : List (Formula String)} (h : List.Forall₂ Reads texts φs) (hne : texts ≠ []) :
    ∃ iss, Phrase (Text.joined (" " ++ op.keyword ++ " ")
        (texts.map Fragment.parenthesized)).toList (joinedItems op iss) ∧
      iss.mapM condition = some φs := by
  have hword : isBareWord op.keyword.toList = true := by cases op <;> rfl
  induction h with
  | nil => exact absurd rfl hne
  | @cons text φ texts φs hhead htail ih =>
      obtain ⟨is, hphrase, hcondition⟩ := hhead
      have hgroup := phrase_parenthesized hphrase
      cases htail with
      | nil =>
          -- The last text has no connective behind it.
          refine ⟨[is], hgroup, ?_⟩
          rw [List.mapM_cons, List.mapM_nil, hcondition]
          rfl
      | @cons text' φ' texts φs hnext hrest =>
          obtain ⟨iss, hjoined, hformulas⟩ := ih (List.cons_ne_nil text' texts)
          have hspaced := hgroup.marked (c := ' ') rfl
            ((Phrase.word hword).marked (c := ' ') rfl hjoined)
          have htext : (Text.joined (" " ++ op.keyword ++ " ")
                ((text :: text' :: texts).map Fragment.parenthesized)).toList
              = (Fragment.parenthesized text).toList ++ ' ' :: (op.keyword.toList ++ ' ' ::
                  (Text.joined (" " ++ op.keyword ++ " ")
                    ((text' :: texts).map Fragment.parenthesized)).toList) := by
            simp [Text.joined]
          rw [← htext] at hspaced
          refine ⟨is :: iss, ?_, ?_⟩
          · -- `joinedItems` looks at the next group to see that there is one.
            cases iss with
            | nil =>
                rw [List.mapM_nil] at hformulas
                cases hformulas
            | cons is' iss => exact hspaced
          · rw [List.mapM_cons, hcondition, hformulas]
            rfl

/-- Joined texts are read as the join of what they are read as. -/
theorem reads_joinedText (op : Connective) {texts : List String}
    {φs : List (Formula String)} (h : List.Forall₂ Reads texts φs) (hne : texts ≠ []) :
    Reads (Fragment.joinedText op texts) (Formula.join op φs) := by
  obtain ⟨iss, hphrase, hformulas⟩ := phrase_joinedItems op h hne
  have hiss : iss ≠ [] := by
    rintro rfl
    rw [List.mapM_nil] at hformulas
    cases hformulas
    cases h
    exact hne rfl
  match texts, φs, h with
  -- One text is not put into parentheses.
  | [text], [φ], .cons hhead .nil => exact hhead
  | text :: text' :: texts, φs, _ =>
      refine ⟨joinedItems op iss, hphrase, ?_⟩
      rw [condition_joined op iss hiss, hformulas]
      rfl

end Sql

/-! ### Compiled filters -/

/-- A fragment whose text is read as a formula with the texts of its
leaves, and whose parameters are those of the leaves in order. -/
structure Fragment.Means (fragment : Fragment) (φ : Formula Fragment) : Prop where
  reads : Reads fragment.sql (φ.map Fragment.sql)
  supplied : ∀ rest, (φ.map Fragment.sql).supplied (fragment.params ++ rest) = (φ, rest)

namespace Fragment

/-- A leaf takes its own parameters and no others. -/
theorem means_leaf {fragment : Fragment} (hleaf : Sql.IsLeaf fragment.sql)
    (hcount : placeholders fragment.sql = fragment.params.length) :
    fragment.Means (.leaf fragment) where
  reads := by
    rw [Formula.map, Formula.fold_leaf]
    exact hleaf
  supplied rest := by
    rw [Formula.map, Formula.fold_leaf, Formula.supplied_leaf, hcount, List.take_left,
      List.drop_left]

/-- Fragments one after the other take their own parameters. -/
theorem inTurn_supplied {fragments : List Fragment} {φs : List (Formula Fragment)}
    (h : List.Forall₂ Means fragments φs) (rest : Params) :
    Params.inTurn ((φs.map (Formula.map Fragment.sql)).map Formula.supplied)
        ((fragments.map Fragment.params).flatten ++ rest)
      = (φs, rest) := by
  induction h with
  | nil => rfl
  | cons hhead _ ih =>
      rw [List.map_cons, List.map_cons, List.map_cons, List.flatten_cons, List.append_assoc,
        Params.inTurn, hhead.supplied]
      show (_ :: (Params.inTurn _ _).1, (Params.inTurn _ _).2) = _
      rw [ih]

/-- Joined fragments mean the join of what they mean. -/
theorem means_joined (op : Connective) (fragments : List Fragment)
    (φs : List (Formula Fragment)) (hne : fragments ≠ [])
    (h : List.Forall₂ Means fragments φs) :
    (joined op fragments).Means (Formula.join op φs) where
  reads := by
    have htexts : List.Forall₂ Reads (fragments.map Fragment.sql)
        (φs.map (Formula.map Fragment.sql)) := by
      rw [List.forall₂_map_left_iff, List.forall₂_map_right_iff]
      exact h.imp fun _ _ hmeans => hmeans.reads
    rw [Formula.map_join]
    exact Sql.reads_joinedText op htexts (by simpa using hne)
  supplied rest := by
    match fragments, φs, h with
    | [f], [φ], .cons hhead .nil => simpa [joined, Formula.join] using hhead.supplied rest
    | f :: g :: fs, φ :: ψ :: φs, h =>
        rw [Formula.map_join]
        show (Formula.joined op ((φ :: ψ :: φs).map (Formula.map Fragment.sql))).supplied
          (((f :: g :: fs).map Fragment.params).flatten ++ rest) = _
        rw [Formula.supplied_joined, inTurn_supplied h rest]
        rfl

/-- A fragment is read as what it means. -/
theorem Means.read_eq {fragment : Fragment} {φ : Formula Fragment} (h : fragment.Means φ) :
    fragment.read = some φ := by
  have hsupplied := h.supplied []
  rw [List.append_nil] at hsupplied
  rw [Fragment.read, h.reads.read_eq]
  show (if ((φ.map Fragment.sql).supplied fragment.params).2.isEmpty
    then some ((φ.map Fragment.sql).supplied fragment.params).1 else none) = some φ
  rw [hsupplied]
  rfl

end Fragment

namespace Compiler

variable (compiler : Compiler)

/-- The fragment of a condition that is compiled alone. -/
def alone (key : String) (condition : Condition) : Fragment :=
  match (compiler.compile (.all [.property key condition])).outcome with
  | .ok fragment => fragment
  | .error _ => ⟨"", []⟩

/-- A condition without defects can be compiled alone. -/
theorem compile_alone {key : String} {condition : Condition}
    (h : compiler.layout.propertyDefects key condition = []) :
    (compiler.compile (.all [.property key condition])).outcome
        = .ok (compiler.alone key condition) ∧
      compiler.alone key condition = compiler.layout.propertyFragment key condition := by
  have houtcome := compiler.compile_property_outcome key condition
  rw [h, report_nil] at houtcome
  have halone : compiler.alone key condition
      = compiler.layout.propertyFragment key condition := by
    rw [alone, houtcome]
  exact ⟨halone ▸ houtcome, halone⟩

/-- A compiled filter means its formula. -/
theorem means_compile {t : Filter} {fragment : Fragment}
    (h : (compiler.compile t).outcome = .ok fragment) :
    fragment.Means (t.formula compiler.alone) := by
  obtain ⟨hfull, hdefects, rfl⟩ := compiler.rendered_of_compile h
  refine Filter.interpret_rel Fragment.means_joined t ?_ hfull
  intro p hp
  have hnone := hdefects p hp
  rw [(compiler.compile_alone hnone).2]
  exact Fragment.means_leaf (compiler.isLeaf_propertyFragment hnone)
    (compiler.placeholders_propertyFragment hnone)

/-- Compiling keeps the boolean structure. The conditions of a
compiled filter can be compiled alone, and its text is read as the
tree of the filter with their texts at the leaves; with parameters,
their fragments are at the leaves. So text and tree have the same truth
value, with SQL's unknown and without, whatever the truth values of
the conditions are. -/
theorem compile_keeps_structure (t : Filter) (fragment : Fragment)
    (h : (compiler.compile t).outcome = .ok fragment) :
    (∀ p ∈ t.properties, (compiler.compile (.all [.property p.1 p.2])).outcome
        = .ok (compiler.alone p.1 p.2)) ∧
      Sql.read fragment.sql
        = some (t.formula fun key condition => (compiler.alone key condition).sql) ∧
      fragment.read = some (t.formula compiler.alone) ∧
      (∀ v : Fragment → Bool, fragment.eval .twoValued v
        = some (t.eval .twoValued fun key condition => v (compiler.alone key condition))) ∧
      ∀ v : Fragment → Truth, fragment.eval .threeValued v
        = some (t.eval .threeValued fun key condition => v (compiler.alone key condition)) := by
  obtain ⟨hfull, hdefects, -⟩ := compiler.rendered_of_compile h
  have hmeans := compiler.means_compile h
  -- Both logics are cases of one argument, since both have neutral values.
  have heval : ∀ {α : Type} (logic : Logic α) (v : Fragment → α), fragment.eval logic v
      = some (t.eval logic fun key condition => v (compiler.alone key condition)) := by
    intro α logic v
    rw [Fragment.eval, hmeans.read_eq, Option.map_some, Filter.eval_formula logic v _ t hfull]
  refine ⟨fun p hp => (compiler.compile_alone (hdefects p hp)).1, ?_, hmeans.read_eq,
    heval .twoValued, heval .threeValued⟩
  rw [hmeans.reads.read_eq, Filter.map_formula Fragment.sql compiler.alone t hfull]

/-- Neither the connective in the name of a column nor the `AND` of a
range is taken for a part of the structure. -/
theorem compile_keeps_structure_awkward :
    ∃ fragment, (awkward.compile awkwardFilter).outcome = .ok fragment ∧
      Sql.read fragment.sql = some (.joined .and
        [.joined .or
          [.leaf "\"a') AND \"\"b\" BETWEEN ? AND ?",
           .leaf "contains(json_extract_string(\"m\"\" OR (\", '$.body.text'), ?)"],
         .leaf "TRY_CAST(json_extract_string(\"m\"\" OR (\", '$.k') AS BOOLEAN) = ?::BOOLEAN"]) := by
  have h := awkward.compile_keeps_structure awkwardFilter _ rfl
  refine ⟨_, rfl, h.2.1.trans ?_⟩
  rfl

end Compiler

end FilterSql
