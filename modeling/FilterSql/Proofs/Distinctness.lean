import FilterSql.Proofs.Noninterference
import FilterSql.Proofs.PredicateText
import FilterSql.Proofs.Sql.Outline
import Mathlib.Data.List.Nodup

/-!
# `FilterSql.Proofs.Distinctness`: different conditions have different texts

The text of a condition on one property says which property it is about,
which comparison it makes, and as which types the literals are compared.
So two such texts are equal only if all three are, whatever the columns
are called.

All three are read off the outline of the text. The key is in the
quotations, where no name can be taken for a path. The comparison is in
the signs. The types stand beside their placeholders, in front of them
for one backend and behind them for the other; a type that stands alone
belongs to the converted column.

* `Sql.Backend.shows_predicate`: the outline of a condition.
* `Sql.keyOf`, `Sql.Backend.signs_injective`, `Sql.Backend.castsOf`: what
  is read off it.
-/

set_option autoImplicit false

namespace FilterSql

open Sql (Backend Cast Lexeme Shows)

/-! ### What the templates show -/

namespace Sql

/-- A quoted name shows the name and nothing else. -/
theorem shows_quotedName (name : String) :
    Shows (quotedName name).toList ⟨[('"', name.toList)], [], []⟩ := by
  rw [quotedName, String.toList_ofList]
  exact .quoted '"' rfl name.toList

namespace Backend

/-- A property of the metadata shows its column and its path. -/
theorem shows_jsonValue (backend : Backend) (column path : String) :
    Shows (backend.jsonValue column path).toList
      ⟨[('"', column.toList), ('\x27', '$' :: '.' :: path.toList)], [], []⟩ := by
  have hpath := Shows.quoted '\x27' rfl ('$' :: '.' :: path.toList)
  have harguments := (shows_quotedName column).parted (c := ',') rfl
    (Shows.nil.parted (c := ' ') rfl hpath)
  obtain ⟨function, hfunction, htext⟩ := backend.exists_toList_jsonValue column path
  have hname : Shows function.toList ⟨[], [], []⟩ := by
    simp only [List.mem_cons, List.not_mem_nil, or_false] at hfunction
    rcases hfunction with rfl | rfl
    all_goals exact .word rfl
  exact (hname.call harguments).congr htext rfl

/-- The type that a conversion of the column shows. -/
def converted : Backend → Option Cast → List (Option Cast)
  | duckdb, some cast => [some cast]
  | _, _ => []

/-- The column side of a comparison. -/
theorem shows_castSelector (backend : Backend) {selector : String}
    {quotations : List (Char × List Char)} (h : Shows selector.toList ⟨quotations, [], []⟩)
    (cast : Option Cast) :
    Shows (backend.castSelector selector cast).toList
      ⟨quotations, [], backend.converted cast⟩ := by
  cases backend with
  | hana => exact h
  | duckdb =>
      cases cast with
      | none => exact h
      | some cast =>
          have htype : Shows cast.sqlType.toList ⟨[], [], [some cast]⟩ := by
            cases cast <;> exact .word rfl
          have hword : Shows "AS".toList ⟨[], [], []⟩ := .word rfl
          have hfunction : Shows "TRY_CAST".toList ⟨[], [], []⟩ := .word rfl
          have hinside := h.parted (c := ' ') rfl (hword.parted (c := ' ') rfl htype)
          refine (hfunction.call hinside).congr ?_ ?_
          · simp [castSelector]
          · simp [Outline.append_eq, converted]

/-- The types that a placeholder shows. -/
def shown : Backend → Option Cast → List (Option Cast)
  | _, none => [none]
  | hana, some cast => [some cast, none]
  | duckdb, some cast => [none, some cast]

/-- What stands for a literal. -/
theorem shows_placeholderFor (backend : Backend) (cast : Option Cast) :
    Shows (Literal.placeholderFor backend cast).toList ⟨[], [], backend.shown cast⟩ := by
  have hmark : Shows ['?'] ⟨[], [], [none]⟩ := .lexeme (l := .mark '?') ⟨rfl, rfl⟩
  cases cast with
  | none => cases backend <;> exact hmark
  | some cast =>
      cases backend with
      | hana =>
          have hname : Shows ("TO_" ++ cast.sqlType).toList ⟨[], [], [some cast]⟩ := by
            cases cast <;> exact .word rfl
          refine (hname.call hmark).congr ?_ rfl
          simp [Literal.placeholderFor, typedPlaceholder]
      | duckdb =>
          have htype : Shows cast.sqlType.toList ⟨[], [], [some cast]⟩ := by
            cases cast <;> exact .word rfl
          refine (hmark.parted (c := ':') rfl (Shows.nil.parted (c := ':') rfl htype)).congr ?_ rfl
          simp [Literal.placeholderFor, typedPlaceholder]

end Backend

/-- Placeholders with commas between them. -/
theorem shows_joined (backend : Backend) (casts : List (Option Cast)) :
    Shows (Text.joined ", " (casts.map (Literal.placeholderFor backend))).toList
      ⟨[], [], casts.flatMap backend.shown⟩ := by
  induction casts with
  | nil => exact .nil
  | cons cast casts ih =>
      have hfirst := backend.shows_placeholderFor cast
      cases casts with
      | nil => exact hfirst.congr rfl (by simp)
      | cons cast' casts =>
          refine (hfirst.parted (c := ',') rfl (Shows.nil.parted (c := ' ') rfl ih)).congr ?_ ?_
          · simp [Text.joined]
          · simp [Outline.append_eq]

end Sql

/-- The signs of a comparison, where it stands between its two sides. -/
def Comparison.signs : Comparison → List Lexeme
  | equal => [.mark '=']
  | notEqual => [.mark '<', .mark '>']
  | less => [.mark '<']
  | lessOrEqual => [.mark '<', .mark '=']
  | greater => [.mark '>']
  | greaterOrEqual => [.mark '>', .mark '=']
  | oneOf => [.word "IN".toList]
  | noneOf => [.word "NOT".toList, .word "IN".toList]
  | between => [.word "BETWEEN".toList]
  | like => [.word "LIKE".toList]
  | contains => [.word "SCORE".toList]

/-- The word of a comparison shows its signs. -/
theorem Comparison.shows_keyword (op : Comparison) :
    Shows op.keyword.toList ⟨[], op.signs, []⟩ := by
  have hequal : Shows ['='] ⟨[], [.mark '='], []⟩ := .lexeme (l := .mark '=') ⟨rfl, rfl⟩
  have hgreater : Shows ['>'] ⟨[], [.mark '>'], []⟩ := .lexeme (l := .mark '>') ⟨rfl, rfl⟩
  have hin : Shows "IN".toList ⟨[], [.word "IN".toList], []⟩ := .word rfl
  have hnot : Shows "NOT".toList ⟨[], [.word "NOT".toList], []⟩ := .word rfl
  cases op with
  | equal => exact hequal
  | notEqual => exact Shows.nil.marked (c := '<') ⟨rfl, rfl⟩ hgreater
  | less => exact .lexeme (l := .mark '<') ⟨rfl, rfl⟩
  | lessOrEqual => exact Shows.nil.marked (c := '<') ⟨rfl, rfl⟩ hequal
  | greater => exact hgreater
  | greaterOrEqual => exact Shows.nil.marked (c := '>') ⟨rfl, rfl⟩ hequal
  | oneOf => exact hin
  | noneOf => exact hnot.parted (c := ' ') rfl hin
  | between | like | contains => exact .word rfl

namespace Sql

/-! ### The outline of a condition -/

namespace Backend

/-- The signs of a comparison. A search has a text of its own for every
backend. -/
def signs : Backend → Comparison → List Lexeme
  | hana, .contains => [.word "SCORE".toList, .word "IN".toList, .mark '>']
  | duckdb, .contains => [.word "contains".toList]
  | _, op => op.signs

/-- The string that a search is written with. -/
def searchMode : Backend → Comparison → List (Char × List Char)
  | hana, .contains => [('\x27', "text".toList)]
  | _, _ => []

/-- Outside searches the signs are those of the word. -/
theorem signs_of_ne (backend : Backend) {op : Comparison} (h : op ≠ .contains) :
    backend.signs op = op.signs ∧ backend.searchMode op = [] := by
  cases op with
  | contains => exact absurd rfl h
  | _ => cases backend <;> exact ⟨rfl, rfl⟩

/-- A search for a text. -/
theorem shows_textSearch (backend : Backend) {selector placeholder : String}
    {quotations : List (Char × List Char)} {types : List (Option Cast)}
    (hselector : Shows selector.toList ⟨quotations, [], []⟩)
    (hplaceholder : Shows placeholder.toList ⟨[], [], types⟩) :
    Shows (backend.textSearch selector placeholder).toList
      ⟨quotations ++ backend.searchMode .contains, backend.signs .contains, types⟩ := by
  cases backend with
  | hana =>
      have hplain : ∀ text ∈ ["EXACT", "SEARCH", "MODE", "0"], Shows text.toList ⟨[], [], []⟩ := by
        intro text htext
        simp only [List.mem_cons, List.not_mem_nil, or_false] at htext
        rcases htext with rfl | rfl | rfl | rfl
        all_goals exact .word rfl
      have hmode := Shows.quoted '\x27' rfl "text".toList
      have hinside := hselector.parted (c := ' ') rfl
        ((hplain "EXACT" (by simp)).parted (c := ' ') rfl
          ((hplain "SEARCH" (by simp)).parted (c := ' ') rfl
            ((hplain "MODE" (by simp)).parted (c := ' ') rfl hmode)))
      have hin : Shows "IN".toList ⟨[], [.word "IN".toList], []⟩ := .word rfl
      have hname : Shows "SCORE".toList ⟨[], [.word "SCORE".toList], []⟩ := .word rfl
      have hscore := hname.call (hplaceholder.parted (c := ' ') rfl
        (hin.parted (c := ' ') rfl hinside.group))
      -- The score is compared with zero, which shows one more sign.
      have hgreater : Shows ['>'] ⟨[], [.mark '>'], []⟩ := .lexeme (l := .mark '>') ⟨rfl, rfl⟩
      refine (hscore.parted (c := ' ') rfl
        (hgreater.parted (c := ' ') rfl (hplain "0" (by simp)))).congr ?_ ?_
      · simp [textSearch, doubled]
      · simp [Outline.append_eq, searchMode, signs]
  | duckdb =>
      have hname : Shows "contains".toList ⟨[], [.word "contains".toList], []⟩ := .word rfl
      refine (hname.call (hselector.parted (c := ',') rfl
        (Shows.nil.parted (c := ' ') rfl hplaceholder))).congr ?_ ?_
      · simp [textSearch]
      · simp [Outline.append_eq, searchMode, signs]

/-- A condition shows the quotations of its selector, the signs of its
comparison and the types of its literals. A type in front of them can
come from the conversion of the column. -/
theorem shows_predicate (backend : Backend) {selector : String}
    {quotations : List (Char × List Char)} {op : Comparison} {literals : List Literal}
    (hselector : Shows selector.toList ⟨quotations, [], []⟩) (hfits : op.shape.Fits literals)
    (hliterals : ∀ l ∈ literals, l.placeholder = Literal.placeholderFor backend l.cast) :
    ∃ cast, Shows (backend.predicate selector op literals).toList
      ⟨quotations ++ backend.searchMode op, backend.signs op,
        backend.converted cast ++ (literals.map Literal.cast).flatMap backend.shown⟩ := by
  have hcolumn := backend.shows_castSelector hselector (Literal.sharedCast literals)
  have hplaceholder : ∀ l ∈ literals,
      Shows l.placeholder.toList ⟨[], [], backend.shown l.cast⟩ := by
    intro l hl
    rw [hliterals l hl]
    exact backend.shows_placeholderFor l.cast
  -- Outside searches the column and the word come first, and what follows shows only types.
  have hcompared : ∀ {cs types}, Shows cs ⟨[], [], types⟩ →
      Shows ((backend.castSelector selector (Literal.sharedCast literals)).toList ++
          ' ' :: (op.keyword.toList ++ ' ' :: cs))
        ⟨quotations, op.signs, backend.converted (Literal.sharedCast literals) ++ types⟩ := by
    intro cs types hcs
    refine (hcolumn.parted (c := ' ') rfl (op.shows_keyword.parted (c := ' ') rfl hcs)).congr rfl ?_
    simp [Outline.append_eq]
  unfold predicate
  generalize hshape : op.shape = shape at hfits
  have hsigns : shape ≠ .textSearch → backend.signs op = op.signs ∧ backend.searchMode op = [] := by
    intro hne
    refine backend.signs_of_ne ?_
    rintro rfl
    exact hne hshape.symm
  cases hfits with
  | binary l =>
      obtain ⟨hsigns, hmode⟩ := hsigns (by simp)
      refine ⟨Literal.sharedCast [l], (hcompared (hplaceholder l (by simp))).congr ?_ ?_⟩
      · simp
      · simp [hsigns, hmode]
  | textSearch l =>
      obtain rfl : op = .contains := by
        cases op with
        | contains => rfl
        | _ => cases hshape
      -- A search does not convert the selector.
      refine ⟨none, (backend.shows_textSearch hselector (hplaceholder l (by simp))).congr rfl ?_⟩
      cases backend <;> simp [converted]
  | range low high =>
      obtain ⟨hsigns, hmode⟩ := hsigns (by simp)
      -- The `AND` between the bounds is no sign.
      have hand : Shows "AND".toList ⟨[], [], []⟩ := .word rfl
      have hbounds := (hplaceholder low (by simp)).parted (c := ' ') rfl
        (hand.parted (c := ' ') rfl (hplaceholder high (by simp)))
      refine ⟨Literal.sharedCast [low, high], (hcompared hbounds).congr ?_ ?_⟩
      · simp
      · simp [Outline.append_eq, hsigns, hmode]
  | list l ls =>
      obtain ⟨hsigns, hmode⟩ := hsigns (by simp)
      have hlist := (shows_joined backend ((l :: ls).map Literal.cast)).group
      have htexts : (l :: ls).map Literal.placeholder
          = ((l :: ls).map Literal.cast).map (Literal.placeholderFor backend) := by
        rw [List.map_map]
        exact List.map_congr_left hliterals
      rw [← htexts] at hlist
      refine ⟨Literal.sharedCast (l :: ls), (hcompared hlist).congr ?_ ?_⟩
      · simp
      · simp [hsigns, hmode]

/-! ### Reading an outline -/

/-- Different comparisons have different signs. -/
theorem signs_injective (backend : Backend) {op op' : Comparison}
    (h : backend.signs op = backend.signs op') : op = op' := by
  have hall : ∀ op : Comparison, op ∈ Comparison.all := by
    intro op
    cases op <;> decide
  have hnodup : (Comparison.all.map backend.signs).Nodup := by
    cases backend <;> decide
  exact List.inj_on_of_nodup_map hnodup (hall op) (hall op') h

/-- Placeholders with the types in front of them. -/
def castsBefore : List (Option Cast) → List (Option Cast)
  | [] => []
  | none :: types => none :: castsBefore types
  | some cast :: none :: types => some cast :: castsBefore types
  | some _ :: types => castsBefore types

/-- Placeholders with the types behind them. -/
def castsBehind : List (Option Cast) → List (Option Cast)
  | [] => []
  | none :: some cast :: types => some cast :: castsBehind types
  | none :: types => none :: castsBehind types
  | some _ :: types => castsBehind types

/-- The types of the literals. -/
def castsOf : Backend → List (Option Cast) → List (Option Cast)
  | hana => castsBefore
  | duckdb => castsBehind

/-- The types of the literals are told from those of the column. -/
theorem castsOf_shown (backend : Backend) (cast : Option Cast) (casts : List (Option Cast)) :
    backend.castsOf (backend.converted cast ++ casts.flatMap backend.shown) = casts := by
  cases backend with
  | hana =>
      show castsBefore (casts.flatMap hana.shown) = casts
      induction casts with
      | nil => rfl
      | cons c casts ih =>
          cases c with
          | none => exact congrArg (none :: ·) ih
          | some c => exact congrArg (some c :: ·) ih
  | duckdb =>
      have hlist : castsBehind (casts.flatMap duckdb.shown) = casts := by
        induction casts with
        | nil => rfl
        | cons c casts ih =>
            cases c with
            | some c => exact congrArg (some c :: ·) ih
            | none =>
                -- What follows starts with a placeholder again, if it does not end.
                cases casts with
                | nil => rfl
                | cons c' casts => cases c' <;> exact congrArg (none :: ·) ih
      cases cast with
      | none => exact hlist
      | some cast => exact hlist

end Backend

/-- The key that quotations tell. A path is a string that starts like
one; otherwise the first quotation is the name of a column. -/
def keyOf : List (Char × List Char) → List Char
  | _ :: ('\x27', '$' :: '.' :: path) :: _ => path
  | (_, name) :: _ => name
  | [] => []

end Sql

namespace Layout

variable (layout : Layout)

/-- The quotations of a selector. -/
def quotations (key : String) : List (Char × List Char) :=
  if layout.isSpecific key then [('"', key.toList)]
  else [('"', layout.metadataColumn.toList), ('\x27', '$' :: '.' :: key.toList)]

/-- A selector shows the names in it and nothing else. -/
theorem shows_selectorText (key : String) :
    Shows (layout.selectorText key).toList ⟨layout.quotations key, [], []⟩ := by
  unfold selectorText quotations
  cases layout.isSpecific key with
  | true => exact Sql.shows_quotedName key
  | false => exact layout.backend.shows_jsonValue layout.metadataColumn key

/-- The key is told by the quotations, also if a search adds one. -/
theorem keyOf_quotations (key : String) (backend : Backend) (op : Comparison) :
    Sql.keyOf (layout.quotations key ++ backend.searchMode op) = key.toList := by
  have hmode : backend.searchMode op = [] ∨ backend.searchMode op = [('\x27', "text".toList)] := by
    unfold Backend.searchMode
    split
    · exact .inr rfl
    · exact .inl rfl
  unfold quotations
  cases layout.isSpecific key with
  | false => rfl
  | true =>
      -- The string of a search does not start like a path.
      rcases hmode with hmode | hmode <;> rw [hmode] <;> rfl

/-- Different keys have different selectors. -/
theorem selectorText_injective {key key' : String}
    (h : layout.selectorText key = layout.selectorText key') : key = key' := by
  have houtline := (layout.shows_selectorText key).unique (h ▸ layout.shows_selectorText key')
  have hquotations : layout.quotations key = layout.quotations key' :=
    congrArg Sql.Outline.quotations houtline
  have hkey := congrArg (fun qs => Sql.keyOf (qs ++ Backend.searchMode .duckdb .equal)) hquotations
  simp only [keyOf_quotations] at hkey
  exact String.toList_inj.mp hkey

/-- What the text of a condition shows: the quotations of its selector,
the signs of its comparison and the types of its literals. -/
theorem shows_propertyFragment (key : String) {c : Condition}
    (hfits : c.op.shape.Fits c.literals) :
    ∃ cast, Shows (layout.propertyFragment key c).sql.toList
      ⟨layout.quotations key ++ layout.backend.searchMode c.op, layout.backend.signs c.op,
        layout.backend.converted cast ++
          (c.literals.map Literal.castOf).flatMap layout.backend.shown⟩ := by
  have hpredicate := layout.backend.shows_predicate (layout.shows_selectorText key)
    (hfits.map (Literal.ofJson layout.backend)) (List.forall_mem_map.mpr fun _ _ => rfl)
  rwa [List.map_map] at hpredicate

/-- Everything but the contents of the literals can be told from the text
of a condition. -/
theorem eq_of_propertyFragment_sql_eq {key key' : String} {c c' : Condition}
    (hfits : c.op.shape.Fits c.literals) (hfits' : c'.op.shape.Fits c'.literals)
    (h : (layout.propertyFragment key c).sql = (layout.propertyFragment key' c').sql) :
    key = key' ∧ c.op = c'.op ∧
      c.literals.map Literal.castOf = c'.literals.map Literal.castOf := by
  obtain ⟨cast, hc⟩ := layout.shows_propertyFragment key hfits
  obtain ⟨cast', hc'⟩ := layout.shows_propertyFragment key' hfits'
  have houtline := hc.unique (h ▸ hc')
  rw [Sql.Outline.mk.injEq] at houtline
  obtain ⟨hquotations, hsigns, htypes⟩ := houtline
  refine ⟨?_, layout.backend.signs_injective hsigns, ?_⟩
  · have hkey := congrArg Sql.keyOf hquotations
    rw [keyOf_quotations, keyOf_quotations] at hkey
    exact String.toList_inj.mp hkey
  · have hcasts := congrArg layout.backend.castsOf htypes
    rwa [Backend.castsOf_shown, Backend.castsOf_shown] at hcasts

/-- Nothing else gets into the text. -/
theorem propertyFragment_sql_congr (key : String) {c c' : Condition} (hop : c.op = c'.op)
    (hcasts : c.literals.map Literal.castOf = c'.literals.map Literal.castOf) :
    (layout.propertyFragment key c).sql = (layout.propertyFragment key c').sql := by
  have hforms : List.Forall₂ Literal.SameForm (c.literals.map (Literal.ofJson layout.backend))
      (c'.literals.map (Literal.ofJson layout.backend)) := by
    rw [List.forall₂_map_left_iff, List.forall₂_map_right_iff]
    rw [← List.forall₂_eq_eq_eq, List.forall₂_map_left_iff, List.forall₂_map_right_iff] at hcasts
    exact hcasts.imp fun v w hvw => ⟨congrArg (Literal.placeholderFor layout.backend) hvw, hvw⟩
  simp only [propertyFragment, ← hop]
  exact layout.backend.predicate_congr _ _ hforms

end Layout

namespace Compiler

variable (compiler : Compiler)

/-- A condition that is compiled by itself has the right shape, its
literals can be bound, and it has the text of its fragment. -/
theorem leaf_of_compile {key : String} {c : Condition} {f : Fragment}
    (h : (compiler.compile (.all [.property key c])).outcome = .ok f) :
    c.op.shape.Fits c.literals ∧ f = compiler.layout.propertyFragment key c ∧
      (Literal.encodeAll compiler.layout.backend c.literals).outcome
        = .ok (c.literals.map (Literal.ofJson compiler.layout.backend)) := by
  rw [compile_property_outcome, report_eq_ok_iff, Layout.propertyDefects,
    List.append_eq_nil_iff, List.append_eq_nil_iff] at h
  obtain ⟨⟨-, hshape, hdefects⟩, rfl⟩ := h
  refine ⟨Condition.fits_literals hshape, rfl, ?_⟩
  rw [Literal.encodeAll_outcome, hdefects, report_nil]

/-- Two conditions have the same text if and only if they are about the
same property, make the same comparison, and have literals that are
compared as the same types one by one. No two keys have the same
selector. -/
theorem leaves_are_distinct :
    (∀ key key' c c' f f',
      (compiler.compile (.all [.property key c])).outcome = .ok f →
      (compiler.compile (.all [.property key' c'])).outcome = .ok f' →
      ∃ ls ls', (Literal.encodeAll compiler.layout.backend c.literals).outcome = .ok ls ∧
        (Literal.encodeAll compiler.layout.backend c'.literals).outcome = .ok ls' ∧
        (f.sql = f'.sql ↔ key = key' ∧ c.op = c'.op ∧
          ls.map Literal.cast = ls'.map Literal.cast)) ∧
    ∀ key key' selector, compiler.layout.selector key = .ok selector →
      compiler.layout.selector key' = .ok selector → key = key' := by
  constructor
  · intro key key' c c' f f' hf hf'
    obtain ⟨hfits, rfl, hencode⟩ := compiler.leaf_of_compile hf
    obtain ⟨hfits', rfl, hencode'⟩ := compiler.leaf_of_compile hf'
    refine ⟨_, _, hencode, hencode', ?_⟩
    rw [List.map_map, List.map_map]
    constructor
    · intro htext
      exact compiler.layout.eq_of_propertyFragment_sql_eq hfits hfits' htext
    · rintro ⟨rfl, hop, hcasts⟩
      exact compiler.layout.propertyFragment_sql_congr key hop hcasts
  · intro key key' selector h h'
    rw [Layout.selector_eq, report_eq_ok_iff] at h h'
    exact compiler.layout.selectorText_injective (h.2.trans h'.2.symm)

/-- A condition with a list of two literals. -/
def pairCondition (v w : Json) : Condition :=
  .compare .oneOf (.array [v, w])

/-- A number and a text can be told from a text and a number, but not
from another number and another text. A name that closes its quotation
is not taken for a path. -/
theorem leaves_are_distinct_awkward :
    (∃ f f',
      (awkward.compile (.all [.property "k"
        (pairCondition (.number (.integer 1)) (.string "x"))])).outcome = .ok f ∧
      (awkward.compile (.all [.property "k"
        (pairCondition (.string "x") (.number (.integer 1)))])).outcome = .ok f' ∧
      f.sql ≠ f'.sql) ∧
    (∃ f f',
      (awkward.compile (.all [.property "k"
        (pairCondition (.number (.integer 1)) (.string "x"))])).outcome = .ok f ∧
      (awkward.compile (.all [.property "k"
        (pairCondition (.number (.integer 2)) (.string "?"))])).outcome = .ok f' ∧
      f.sql = f'.sql ∧ f.params ≠ f'.params) ∧
    ∃ selector, awkward.layout.selector "a') AND \"b" = .ok selector ∧
      awkward.layout.selector "b" ≠ .ok selector := by
  refine ⟨⟨_, _, rfl, rfl, ?_⟩, ⟨_, _, rfl, rfl, ?_, by decide⟩, ⟨_, rfl, ?_⟩⟩
  · intro htext
    obtain ⟨ls, ls', hls, hls', hiff⟩ := awkward.leaves_are_distinct.1 "k" "k"
      (pairCondition (.number (.integer 1)) (.string "x"))
      (pairCondition (.string "x") (.number (.integer 1))) _ _ rfl rfl
    cases hls
    cases hls'
    exact absurd (hiff.mp htext).2.2 (by decide)
  · obtain ⟨ls, ls', hls, hls', hiff⟩ := awkward.leaves_are_distinct.1 "k" "k"
      (pairCondition (.number (.integer 1)) (.string "x"))
      (pairCondition (.number (.integer 2)) (.string "?")) _ _ rfl rfl
    cases hls
    cases hls'
    exact hiff.mpr ⟨rfl, rfl, rfl⟩
  · intro hselector
    have hkey := awkward.leaves_are_distinct.2 "a') AND \"b" "b" _ rfl hselector
    exact absurd hkey (by decide)

end Compiler

end FilterSql
