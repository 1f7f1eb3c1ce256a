import FilterSql.Proofs.Names
import FilterSql.Proofs.Reference

/-!
# `FilterSql.Proofs.Placeholders`: every parameter has its placeholder

The text of a condition and its parameters are put together apart from
each other: fragments are joined by text, their parameters by
concatenation, and one backend writes a placeholder in front of the
column that it belongs to. Parameters are bound by position, so the
two must stay in step.

`Lays text leaves` says that they do: the text has a placeholder for
every parameter of the leaves, and each leaf stands in it behind as
many placeholders as the leaves before it have parameters. Joining
keeps it, because parentheses, connectives and commas hold no question
mark.

* `Compiler.placeholders_propertyFragment`: one condition.
* `Lays.joined`: a connective.
* `Compiler.follows_compile`: a compiled filter and its leaves.
* `Compiler.build_outcome`: the check of placeholders against
  parameters that comes before a clause never fails.
-/

set_option autoImplicit false

namespace FilterSql

open Sql (Backend Cast placeholders)

/-! ### Counting question marks -/

namespace Sql

/-- Placeholders are counted part by part. -/
@[simp] theorem placeholders_append (a b : String) :
    placeholders (a ++ b) = placeholders a + placeholders b := by
  simp [placeholders]

/-- Writing quotes twice adds no question mark. -/
theorem count_doubled (quote : Char) (hquote : quote ≠ '?') (cs : List Char) :
    (doubled quote cs).count '?' = cs.count '?' := by
  induction cs with
  | nil => rfl
  | cons c cs ih =>
      by_cases hc : c = quote
      · -- The quote is written twice, and neither time is it counted.
        subst hc
        simp [doubled, ih, hquote]
      · rw [doubled, if_neg hc, List.count_cons, List.count_cons, ih]

/-- A quoted name has no placeholder if the name has none. -/
theorem placeholders_quotedName {name : String} (h : '?' ∉ name.toList) :
    placeholders (quotedName name) = 0 := by
  have hcount := count_doubled '"' (by decide) name.toList
  rw [List.count_eq_zero.mpr h] at hcount
  simp [placeholders, quotedName, hcount]

/-- Nor has an escaped string. -/
theorem placeholders_escapedString {s : String} (h : '?' ∉ s.toList) :
    placeholders (escapedString s) = 0 := by
  have hcount := count_doubled '\x27' (by decide) s.toList
  rw [List.count_eq_zero.mpr h] at hcount
  simp [placeholders, escapedString, hcount]

namespace Backend

/-- Nor has a selected part of the metadata. -/
theorem placeholders_jsonValue (backend : Backend) {column path : String}
    (hcolumn : '?' ∉ column.toList) (hpath : '?' ∉ path.toList) :
    placeholders (backend.jsonValue column path) = 0 := by
  unfold jsonValue
  cases backend with
  | hana =>
      simp only [placeholders_append, placeholders_quotedName hcolumn,
        placeholders_escapedString hpath]
      rfl
  | duckdb =>
      simp only [placeholders_append, placeholders_quotedName hcolumn,
        placeholders_escapedString hpath]
      rfl

/-- Giving the column a type adds no question mark. -/
theorem placeholders_castSelector (backend : Backend) {selector : String}
    (h : placeholders selector = 0) (cast : Option Cast) :
    placeholders (backend.castSelector selector cast) = 0 := by
  cases backend with
  | hana => exact h
  | duckdb =>
      cases cast with
      | none => exact h
      | some cast =>
          simp only [castSelector, placeholders_append, h]
          cases cast <;> rfl

end Backend

end Sql

/-- What stands for a literal holds one question mark. -/
theorem Literal.placeholders_placeholderFor (backend : Backend) (cast : Option Cast) :
    placeholders (Literal.placeholderFor backend cast) = 1 := by
  cases cast with
  | none => cases backend <;> rfl
  | some cast => cases backend <;> cases cast <;> rfl

/-- A list of placeholders with commas between them. -/
theorem Literal.placeholders_joined (literals : List Literal)
    (h : ∀ l ∈ literals, placeholders l.placeholder = 1) :
    placeholders (Text.joined ", " (literals.map Literal.placeholder))
      = literals.length := by
  induction literals with
  | nil => rfl
  | cons l ls ih =>
      rw [List.forall_mem_cons] at h
      cases ls with
      | nil => simpa [Text.joined] using h.1
      | cons m ms =>
          have htail := ih h.2
          simp only [List.map_cons, Text.joined, Sql.placeholders_append] at htail ⊢
          rw [h.1, htail, show placeholders ", " = 0 from rfl, List.length_cons, Nat.add_zero,
            Nat.add_comm]
          rfl

/-! ### One condition -/

/-- A condition holds one question mark for every literal. -/
theorem Sql.Backend.placeholders_predicate (backend : Backend) {selector : String}
    {op : Comparison} {literals : List Literal} (hselector : placeholders selector = 0)
    (hfits : op.shape.Fits literals)
    (hliterals : ∀ l ∈ literals, placeholders l.placeholder = 1) :
    placeholders (backend.predicate selector op literals) = literals.length := by
  have hcast := placeholders_castSelector backend hselector (Literal.sharedCast literals)
  have hword : placeholders op.keyword = 0 := by cases op <;> rfl
  unfold predicate
  generalize hshape : op.shape = shape at hfits
  cases hfits with
  | binary l =>
      have hl := hliterals l (by simp)
      simp only [placeholders_append, hcast, hword, hl]
      rfl
  | textSearch l =>
      have hl := hliterals l (by simp)
      cases backend with
      | hana =>
          simp only [textSearch, placeholders_append, hselector, hl]
          rfl
      | duckdb =>
          simp only [textSearch, placeholders_append, hselector, hl]
          rfl
  | range low high =>
      have hlow := hliterals low (by simp)
      have hhigh := hliterals high (by simp)
      simp only [placeholders_append, hcast, hword, hlow, hhigh]
      rfl
  | list l ls =>
      have hlist := Literal.placeholders_joined (l :: ls) hliterals
      simp only [placeholders_append, hcast, hword, hlist]
      show 0 + 0 + 0 + 0 + (l :: ls).length + 0 = _
      omega

namespace Compiler

variable (compiler : Compiler)

/-- No key brings a question mark into a condition. -/
theorem placeholders_selectorText {key : String}
    (h : compiler.layout.keyDefects key = []) :
    placeholders (compiler.layout.selectorText key) = 0 := by
  obtain ⟨hkey, hname | hpath⟩ := compiler.selectorText_cases h
  · rw [hname]
    exact Sql.placeholders_quotedName hkey
  · rw [hpath]
    exact Sql.Backend.placeholders_jsonValue _ compiler.not_mem_metadataColumn hkey

/-- A condition without defects holds one question mark for every
parameter. -/
theorem placeholders_propertyFragment {key : String} {condition : Condition}
    (h : compiler.layout.propertyDefects key condition = []) :
    placeholders (compiler.layout.propertyFragment key condition).sql
      = (compiler.layout.propertyFragment key condition).params.length := by
  simp only [Layout.propertyDefects, List.append_eq_nil_iff] at h
  obtain ⟨hkey, hshape, -⟩ := h
  have hcount := Sql.Backend.placeholders_predicate compiler.layout.backend
    (compiler.placeholders_selectorText hkey)
    ((Condition.fits_literals hshape).map (Literal.ofJson compiler.layout.backend))
    (by
      intro l hl
      obtain ⟨v, -, rfl⟩ := List.mem_map.mp hl
      exact Literal.placeholders_placeholderFor _ _)
  simpa [Layout.propertyFragment] using hcount

end Compiler

/-! ### Leaves in a text -/

/-- A text has a placeholder for every parameter of its leaves, and
each leaf stands behind as many placeholders as the leaves before it
have parameters. -/
structure Lays (text : String) (leaves : List Fragment) : Prop where
  count : placeholders text = (leaves.flatMap Fragment.params).length
  places : ∀ before leaf after, leaves = before ++ leaf :: after →
    ∃ pre post, text = pre ++ leaf.sql ++ post ∧
      placeholders pre = (before.flatMap Fragment.params).length

namespace Lays

/-- A text without placeholders has no leaves. -/
theorem blank {text : String} (h : placeholders text = 0) : Lays text [] where
  count := h
  places before leaf after heq := by simp at heq

/-- A leaf alone. -/
theorem leaf {f : Fragment} (h : placeholders f.sql = f.params.length) :
    Lays f.sql [f] where
  count := by simpa using h
  places before g after heq := by
    rw [List.singleton_eq_append_iff] at heq
    obtain ⟨rfl, hcons⟩ | ⟨-, hnil⟩ := heq
    · obtain ⟨rfl, -⟩ := List.cons.inj hcons
      exact ⟨"", "", by simp, rfl⟩
    · simp at hnil

/-- Texts one after the other. A leaf of the second text stands behind
all of the first. -/
theorem append {s t : String} {fs gs : List Fragment} (hs : Lays s fs) (ht : Lays t gs) :
    Lays (s ++ t) (fs ++ gs) where
  count := by
    rw [Sql.placeholders_append, hs.count, ht.count, List.flatMap_append, List.length_append]
  places before leaf after heq := by
    rcases List.append_eq_append_iff.mp heq with ⟨mid, hbefore, hgs⟩ | ⟨mid, hfs, hafter⟩
    · -- The leaf is one of `gs`, and `mid` are those before it there.
      obtain ⟨pre, post, rfl, hpre⟩ := ht.places mid leaf after hgs
      refine ⟨s ++ pre, post, ?_, ?_⟩
      · simp only [String.append_assoc]
      · rw [Sql.placeholders_append, hs.count, hpre, hbefore, List.flatMap_append,
          List.length_append]
    · cases mid with
      | nil =>
          -- The cut is between the two texts, so the leaf is the first of `gs`.
          rw [List.append_nil] at hfs
          subst hfs
          obtain ⟨pre, post, rfl, hpre⟩ := ht.places [] leaf after hafter.symm
          refine ⟨s ++ pre, post, ?_, ?_⟩
          · simp only [String.append_assoc]
          · rw [Sql.placeholders_append, hs.count, hpre]
            rfl
      | cons g mid =>
          obtain ⟨rfl, -⟩ := List.cons.inj hafter
          obtain ⟨pre, post, rfl, hpre⟩ := hs.places before leaf mid hfs
          exact ⟨pre, post ++ t, by simp only [String.append_assoc], hpre⟩

/-- Parentheses hold no placeholder. -/
theorem parenthesized {text : String} {leaves : List Fragment} (h : Lays text leaves) :
    Lays (Fragment.parenthesized text) leaves := by
  have hopen : placeholders "(" = 0 := rfl
  have hclose : placeholders ")" = 0 := rfl
  have hwrapped := ((blank hopen).append h).append (blank hclose)
  rwa [List.nil_append, List.append_nil] at hwrapped

/-- Texts in parentheses with a separator between them. -/
theorem joined {separator : String} (hsep : placeholders separator = 0)
    {texts : List String} {leaves : List (List Fragment)}
    (h : List.Forall₂ Lays texts leaves) :
    Lays (Text.joined separator (texts.map Fragment.parenthesized)) leaves.flatten := by
  induction h with
  | nil => exact blank rfl
  | @cons text fs texts leaves hhead htail ih =>
      cases htail with
      | nil => simpa [Text.joined] using hhead.parenthesized
      | cons h hs =>
          have hrest := (hhead.parenthesized.append (blank hsep)).append ih
          rw [List.append_nil] at hrest
          exact hrest

end Lays

/-! ### Compiled filters -/

/-- The literals of a filter, from left to right. -/
def Filter.literals (t : Filter) : List Json :=
  t.properties.flatMap fun p => p.2.literals

namespace Layout

/-- The fragments of conditions, each by itself. -/
def leaves (layout : Layout) (ps : List (String × Condition)) : List Fragment :=
  ps.map fun p => layout.propertyFragment p.1 p.2

/-- The leaves bind the literals of their conditions, in order. -/
theorem leaves_params (layout : Layout) (ps : List (String × Condition)) :
    (layout.leaves ps).flatMap Fragment.params
      = (ps.flatMap fun p => p.2.literals).map Literal.text := by
  rw [leaves, List.flatMap_map, List.map_flatMap]
  rfl

/-- A fragment goes with a list of conditions: they are its leaves, and
its parameters are theirs. -/
structure Follows (layout : Layout) (f : Fragment) (ps : List (String × Condition)) :
    Prop where
  lays : Lays f.sql (layout.leaves ps)
  params : f.params = (layout.leaves ps).flatMap Fragment.params

/-- Joining keeps fragments in step with their conditions. -/
theorem follows_joined (layout : Layout) (op : Connective) (fs : List Fragment)
    (pss : List (List (String × Condition))) (hne : fs ≠ [])
    (h : List.Forall₂ layout.Follows fs pss) :
    layout.Follows (Fragment.joined op fs) pss.flatten := by
  have hleaves : layout.leaves pss.flatten = (pss.map layout.leaves).flatten := by
    rw [leaves, List.map_flatten]
    rfl
  -- Parameters are joined apart from the texts, but in the same order.
  have hparams : (fs.map Fragment.params).flatten
      = (pss.map layout.leaves).flatten.flatMap Fragment.params := by
    clear hne hleaves
    induction h with
    | nil => rfl
    | cons hhead _ ih =>
        rw [List.map_cons, List.flatten_cons, hhead.params, ih, List.map_cons,
          List.flatten_cons, List.flatMap_append]
  have htexts : List.Forall₂ Lays (fs.map Fragment.sql) (pss.map layout.leaves) := by
    rw [List.forall₂_map_left_iff, List.forall₂_map_right_iff]
    exact h.imp fun _ _ hf => hf.lays
  have hword : placeholders (" " ++ op.keyword ++ " ") = 0 := by cases op <;> rfl
  refine ⟨?_, ?_⟩
  · rw [hleaves]
    match fs, pss, hne, h, htexts with
    -- One fragment stays as it is, without parentheses.
    | [f], [ps], _, .cons hf .nil, _ => simpa [Fragment.joined, Fragment.joinedText] using hf.lays
    | f :: g :: fs, pss, _, _, htexts => exact Lays.joined hword htexts
  · rw [hleaves]
    exact hparams

end Layout

namespace Compiler

variable (compiler : Compiler)

/-- A compiled filter goes with its conditions. -/
theorem follows_compile {t : Filter} {fragment : Fragment}
    (h : (compiler.compile t).outcome = .ok fragment) :
    compiler.layout.Follows fragment t.properties := by
  obtain ⟨hfull, hdefects, rfl⟩ := compiler.rendered_of_compile h
  refine Filter.interpret_rel (compiler.layout.follows_joined) t ?_ hfull
  intro p hp
  have hcount := compiler.placeholders_propertyFragment (hdefects p hp)
  exact ⟨Lays.leaf hcount, (List.flatMap_singleton _ _).symm⟩

/-- A compiled filter has a parameter for every placeholder. -/
theorem placeholders_of_compile {t : Filter} {fragment : Fragment}
    (h : (compiler.compile t).outcome = .ok fragment) :
    placeholders fragment.sql = fragment.params.length := by
  have hfollows := compiler.follows_compile h
  rw [hfollows.lays.count, hfollows.params]

/-- The check of placeholders against parameters never fails. -/
theorem checkParity_eq_pure {t : Filter} {fragment : Fragment}
    (h : (compiler.compile t).outcome = .ok fragment) :
    checkParity fragment = pure () := by
  rw [checkParity, if_pos (compiler.placeholders_of_compile h)]

/-- A filter that asks something is built if and only if it can be
compiled. -/
theorem build_outcome {t : Filter} (hne : t.isEmpty = false) :
    (compiler.build (some t)).outcome
      = (compiler.compile t).outcome.map WhereClause.ofFragment := by
  rw [build, hne, if_neg Bool.false_ne_true]
  simp only [Traced.outcome_bind, Traced.outcome_emit, Traced.outcome_pure]
  cases h : (compiler.compile t).outcome with
  | error e => rfl
  | ok fragment =>
      rw [except_ok_bind, compiler.checkParity_eq_pure h]
      rfl

/-- A single comparison holds one question mark for every parameter. -/
theorem placeholders_compileComparison {key symbol : String} {operand : Json}
    {fragment : Fragment}
    (h : (compiler.compileComparison key symbol operand).outcome = .ok fragment) :
    placeholders fragment.sql = fragment.params.length := by
  rw [compileComparison_outcome] at h
  obtain ⟨op, -, hcompile⟩ := except_bind_eq_ok_iff.mp h
  have hfollows := compiler.follows_compile hcompile
  rw [hfollows.lays.count, hfollows.params]

/-- The literals of a compiled filter are bound in order. -/
theorem params_of_compile {t : Filter} {fragment : Fragment}
    (h : (compiler.compile t).outcome = .ok fragment) :
    ∃ literals, (Literal.encodeAll compiler.layout.backend t.literals).outcome = .ok literals ∧
      fragment.params = literals.map Literal.param := by
  refine ⟨t.literals.map (Literal.ofJson compiler.layout.backend), ?_, ?_⟩
  · rw [Literal.encodeAll_outcome, report_eq_ok_iff]
    refine ⟨?_, rfl⟩
    obtain ⟨-, hdefects, -⟩ := compiler.rendered_of_compile h
    simp only [Filter.literals, List.flatMap_eq_nil_iff, List.mem_flatMap]
    rintro v ⟨p, hp, hv⟩
    have hnone := hdefects p hp
    simp only [Layout.propertyDefects, List.append_eq_nil_iff,
      List.flatMap_eq_nil_iff] at hnone
    exact hnone.2.2 v hv
  · rw [(compiler.follows_compile h).params, Layout.leaves_params, List.map_map]
    rfl

/-- A clause binds the literals of its filter. -/
theorem params_of_build {t : Filter} {clause : WhereClause}
    (h : (compiler.build (some t)).outcome = .ok clause) :
    (∀ v ∈ t.literals, Literal.defects v = []) ∧ clause.params = t.literals.map Literal.text := by
  obtain ⟨cs⟩ := t
  cases hempty : (Filter.all cs).isEmpty with
  | true =>
      rw [build, if_pos hempty] at h
      obtain rfl : cs = [] := List.isEmpty_iff.mp hempty
      cases h
      exact ⟨fun v hv => absurd hv List.not_mem_nil, rfl⟩
  | false =>
      rw [compiler.build_outcome hempty] at h
      cases hcompile : (compiler.compile (.all cs)).outcome with
      | error e =>
          rw [hcompile] at h
          cases h
      | ok fragment =>
          rw [hcompile] at h
          cases h
          obtain ⟨literals, hencode, hparams⟩ := compiler.params_of_compile hcompile
          rw [Literal.encodeAll_outcome, report_eq_ok_iff, List.flatMap_eq_nil_iff] at hencode
          obtain ⟨hdefects, rfl⟩ := hencode
          refine ⟨hdefects, ?_⟩
          rw [List.map_map] at hparams
          exact hparams

/-- Placeholders and parameters stay in step. There are as many of one
as of the other; the parameters are those of the literals from left to
right; and every condition stands in the text as it is compiled alone,
behind as many placeholders as there are parameters before its own.
The first holds of a single comparison too. -/
theorem params_in_step :
    (∀ (t : Filter) (fragment : Fragment), (compiler.compile t).outcome = .ok fragment →
      placeholders fragment.sql = fragment.params.length ∧
      (∃ literals,
        (Literal.encodeAll compiler.layout.backend t.literals).outcome = .ok literals ∧
          fragment.params = literals.map Literal.param) ∧
      ∀ before key condition after, t.properties = before ++ (key, condition) :: after →
        ∃ leaf pre post front back,
          (compiler.compile (.all [.property key condition])).outcome = .ok leaf ∧
          fragment.sql = pre ++ leaf.sql ++ post ∧
          fragment.params = front ++ leaf.params ++ back ∧
          front.length = (before.flatMap fun p => p.2.literals).length ∧
          placeholders pre = front.length ∧
          placeholders leaf.sql = leaf.params.length) ∧
    ∀ (key symbol : String) (operand : Json) (fragment : Fragment),
      (compiler.compileComparison key symbol operand).outcome = .ok fragment →
        placeholders fragment.sql = fragment.params.length := by
  refine ⟨fun t fragment h => ?_, fun _ _ _ _ h => compiler.placeholders_compileComparison h⟩
  have hfollows := compiler.follows_compile h
  refine ⟨?_, compiler.params_of_compile h, ?_⟩
  · rw [hfollows.lays.count, hfollows.params]
  · intro before key condition after hsplit
    obtain ⟨-, hdefects, -⟩ := compiler.rendered_of_compile h
    have hnone := hdefects (key, condition) (by simp [hsplit])
    have hleaves : compiler.layout.leaves t.properties = compiler.layout.leaves before ++
        compiler.layout.propertyFragment key condition :: compiler.layout.leaves after := by
      rw [hsplit, Layout.leaves, List.map_append, List.map_cons]
      rfl
    obtain ⟨pre, post, hsql, hpre⟩ := hfollows.lays.places _ _ _ hleaves
    refine ⟨compiler.layout.propertyFragment key condition, pre, post,
      (compiler.layout.leaves before).flatMap Fragment.params,
      (compiler.layout.leaves after).flatMap Fragment.params, ?_, hsql, ?_, ?_, hpre,
      compiler.placeholders_propertyFragment hnone⟩
    · rw [compile_property_outcome, hnone, report_nil]
    · rw [hfollows.params, hleaves, List.flatMap_append, List.flatMap_cons, List.append_assoc]
    · rw [Layout.leaves_params, List.length_map]

/-- The search in the middle of a filter stands behind the two
placeholders of the range before it. -/
theorem params_in_step_awkward :
    (∃ fragment leaf pre post,
      (awkward.compile awkwardFilter).outcome = .ok fragment ∧
      (awkward.compile (.all [.property "body.text"
        (.compare .contains (.string "z"))])).outcome = .ok leaf ∧
      placeholders fragment.sql = fragment.params.length ∧
      fragment.params = ["x", "y", "z", "true"] ∧
      fragment.sql = pre ++ leaf.sql ++ post ∧ placeholders pre = 2) ∧
    ∃ fragment, (awkward.compileComparison "k" "$lt" (.string "v")).outcome = .ok fragment ∧
      placeholders fragment.sql = fragment.params.length := by
  obtain ⟨fragment, hcompile, hparams⟩ : ∃ fragment,
      (awkward.compile awkwardFilter).outcome = .ok fragment ∧
        fragment.params = ["x", "y", "z", "true"] := ⟨_, rfl, rfl⟩
  obtain ⟨hcount, -, hplaces⟩ := awkward.params_in_step.1 awkwardFilter fragment hcompile
  obtain ⟨leaf, pre, post, front, back, hleaf, hsql, -, hfront, hpre, -⟩ :=
    hplaces [("a') AND \"b", .compare .between (.array [.string "x", .string "y"]))]
      "body.text" (.compare .contains (.string "z")) [("k", .equals (.bool true))] rfl
  refine ⟨⟨fragment, leaf, pre, post, hcompile, hleaf, hcount, hparams, hsql, ?_⟩,
    _, rfl, awkward.params_in_step.2 "k" "$lt" (.string "v") _ rfl⟩
  rw [hpre, hfront]
  rfl

end Compiler

end FilterSql
