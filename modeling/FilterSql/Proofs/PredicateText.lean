import FilterSql.Proofs.Names
import FilterSql.Proofs.Sql.Phrase

/-!
# `FilterSql.Proofs.PredicateText`: a condition on one property is a leaf

Every backend has its own templates for selectors, placeholders and
searches, and names and keys of any kind are put into them. What comes
out is a phrase all the same, and one that is read as a single leaf: a
name is inside a quotation whatever it holds, no template brings in a
connective, and the `AND` of a range belongs to its `BETWEEN`.

* `Sql.Term`: phrases without keywords, such as selectors and
  placeholders.
* `Sql.Backend.isTerm_jsonValue`, `Sql.Backend.isTerm_castSelector`,
  `Literal.isTerm_placeholderFor`: the templates that make them.
* `Sql.Backend.isLeaf_predicate`: a comparison.
* `Compiler.isLeaf_propertyFragment`: a condition with its key.
-/

set_option autoImplicit false

namespace FilterSql

open Sql (Backend Cast)

namespace Sql

/-! ### Terms -/

/-- A phrase without connectives, `BETWEEN`, and blanks at its ends. -/
structure Term (cs : List Char) (is : List Item) : Prop where
  phrase : Phrase cs is
  plain : ∀ i ∈ is, i.Plain
  tight : Tight is

namespace Term

variable {cs ds : List Char} {is js : List Item}

/-- A phrase of one item. -/
theorem singleton {i : Item} (h : Phrase cs [i]) (hplain : i.Plain)
    (hblank : i.isBlank = false) : Term cs [i] where
  phrase := h
  plain := List.forall_mem_singleton.mpr hplain
  tight := ⟨⟨i, [], rfl, hblank⟩, ⟨[], i, rfl, hblank⟩⟩

/-- A word that is no keyword is a term. -/
theorem word (hword : isBareWord cs = true) (hplain : Item.Plain (.lexeme (.word cs))) :
    Term cs [.lexeme (.word cs)] :=
  singleton (.word hword) hplain rfl

/-- So is a mark. -/
theorem mark {c : Char} (hmark : isMark c = true) (hblank : c.isWhitespace = false) :
    Term [c] [.lexeme (.mark c)] :=
  singleton (.mark hmark) (Item.plain_mark c) hblank

/-- So is whatever stands in parentheses. -/
theorem group (h : Phrase cs is) : Term ('(' :: (cs ++ [')'])) [closed is] :=
  singleton h.group (Item.plain_closed is) rfl

/-- A function with its arguments, whatever these are. -/
theorem call (name : String) (hname : isBareWord name.toList = true)
    (hplain : Item.Plain (.lexeme (.word name.toList))) (h : Phrase cs is) :
    Term (name.toList ++ '(' :: (cs ++ [')']))
      [.lexeme (.word name.toList), closed is] where
  phrase := .call hname h
  plain := by
    rw [List.forall_mem_cons, List.forall_mem_singleton]
    exact ⟨hplain, Item.plain_closed is⟩
  tight := ⟨⟨_, [closed is], rfl, rfl⟩, ⟨[.lexeme (.word name.toList)], closed is, rfl, rfl⟩⟩

/-- A mark in front of a term. -/
theorem mark_cons {c : Char} (hc : isMark c = true) (hblank : c.isWhitespace = false)
    (h : Term cs is) : Term (c :: cs) (.lexeme (.mark c) :: is) where
  phrase := h.phrase.mark_cons hc
  plain := List.forall_mem_cons.mpr ⟨Item.plain_mark c, h.plain⟩
  tight := by
    obtain ⟨rest, i, rfl, hi⟩ := h.tight.last
    exact ⟨⟨_, rest ++ [i], rfl, hblank⟩, ⟨_ :: rest, i, rfl, hi⟩⟩

/-- Two terms with a mark between them, which may be a blank. -/
theorem marked {c : Char} (hc : isMark c = true) (h : Term cs is) (h' : Term ds js) :
    Term (cs ++ c :: ds) (is ++ .lexeme (.mark c) :: js) where
  phrase := h.phrase.marked hc h'.phrase
  plain := by
    rw [List.forall_mem_append, List.forall_mem_cons]
    exact ⟨h.plain, Item.plain_mark c, h'.plain⟩
  tight := by
    obtain ⟨i, rest, rfl, hi⟩ := h.tight.first
    obtain ⟨rest', j, rfl, hj⟩ := h'.tight.last
    refine ⟨⟨i, rest ++ .lexeme (.mark c) :: (rest' ++ [j]), rfl, hi⟩,
      ⟨i :: rest ++ .lexeme (.mark c) :: rest', j, ?_, hj⟩⟩
    simp

end Term

/-- A text that is a term. -/
def IsTerm (text : String) : Prop :=
  ∃ is, Term text.toList is

/-- A term from its characters. -/
theorem Term.isTerm {cs : List Char} {is : List Item} (h : Term cs is) {text : String}
    (htext : text.toList = cs) : IsTerm text :=
  ⟨is, htext ▸ h⟩

/-- A text that is read as a leaf with itself as its text. -/
def IsLeaf (text : String) : Prop :=
  Reads text (.leaf text)

/-- A phrase that no connective cuts is a leaf. -/
theorem IsLeaf.of_whole {text : String} {is : List Item} (h : Phrase text.toList is)
    (hor : ∀ i ∈ is, i.isWord "OR" = false) (hwhole : conjuncts false is = [is])
    (htight : Tight is) (hlexeme : ∃ l, Item.lexeme l ∈ is) : IsLeaf text := by
  refine ⟨is, h, ?_⟩
  rw [condition_of_whole hor hwhole htight hlexeme]
  obtain ⟨ls, hls⟩ := h
  rw [hls.items, String.ofList_toList]

/-- A term with more in it than a group is a leaf. -/
theorem IsLeaf.of_term {text : String} {is : List Item} (h : Term text.toList is)
    (hlexeme : ∃ l, Item.lexeme l ∈ is) : IsLeaf text :=
  .of_whole h.phrase (fun i hi => (h.plain i hi).or) (conjuncts_of_plain h.plain false)
    h.tight hlexeme

/-! ### Selectors and placeholders -/

/-- A name is a term, whatever it holds. -/
theorem isTerm_quotedName {name : String} (h : '?' ∉ name.toList) :
    IsTerm (quotedName name) := by
  refine ⟨[.lexeme (.quoted '"' name.toList)], ?_⟩
  rw [quotedName, String.toList_ofList]
  exact .singleton (.quoted rfl h) (Item.plain_quoted _ _) rfl

namespace Backend

/-- A property of the metadata is a function of two quotations. -/
theorem exists_toList_jsonValue (backend : Backend) (column path : String) :
    ∃ function ∈ ["JSON_VALUE", "json_extract_string"],
      (backend.jsonValue column path).toList
        = function.toList ++ '(' :: (((quotedName column).toList ++ ',' :: ' ' ::
            ('\x27' :: doubled '\x27' ('$' :: '.' :: path.toList) ++ ['\x27'])) ++ [')']) := by
  have htext : ∀ function : String,
      (function ++ "(" ++ quotedName column ++ ", '$." ++ escapedString path ++ "')").toList
        = function.toList ++ '(' :: (((quotedName column).toList ++ ',' :: ' ' ::
            ('\x27' :: doubled '\x27' ('$' :: '.' :: path.toList) ++ ['\x27'])) ++ [')']) := by
    intro function
    -- The two characters in front of the path are no quotes.
    have hpoint : doubled '\x27' ('$' :: '.' :: path.toList)
        = '$' :: '.' :: doubled '\x27' path.toList := rfl
    rw [hpoint, escapedString]
    simp
  cases backend with
  | hana => exact ⟨_, List.mem_cons_self, htext _⟩
  | duckdb => exact ⟨_, List.mem_cons_of_mem _ List.mem_cons_self, htext _⟩

/-- A property of the metadata, whatever its column and path hold. -/
theorem isTerm_jsonValue (backend : Backend) {column path : String}
    (hcolumn : '?' ∉ column.toList) (hpath : '?' ∉ path.toList) :
    IsTerm (backend.jsonValue column path) := by
  have hstring : Phrase ('\x27' :: doubled '\x27' ('$' :: '.' :: path.toList) ++ ['\x27'])
      [.lexeme (.quoted '\x27' ('$' :: '.' :: path.toList))] :=
    .quoted rfl (by simpa using hpath)
  obtain ⟨is, hname⟩ := isTerm_quotedName hcolumn
  have harguments := hname.phrase.marked (c := ',') rfl (hstring.mark_cons (c := ' ') rfl)
  obtain ⟨function, hfunction, htext⟩ := backend.exists_toList_jsonValue column path
  simp only [List.mem_cons, List.not_mem_nil, or_false] at hfunction
  rcases hfunction with rfl | rfl
  all_goals exact (Term.call _ rfl ⟨rfl, rfl, rfl⟩ harguments).isTerm htext

/-- The column side of a comparison. -/
theorem isTerm_castSelector (backend : Backend) {selector : String} (h : IsTerm selector)
    (cast : Option Cast) : IsTerm (backend.castSelector selector cast) := by
  cases backend with
  | hana => exact h
  | duckdb =>
      cases cast with
      | none => exact h
      | some cast =>
          obtain ⟨is, hselector⟩ := h
          -- `AS` and the type are inside the parentheses, where nothing is cut.
          have htype : Phrase cast.sqlType.toList [.lexeme (.word cast.sqlType.toList)] := by
            refine .word ?_
            cases cast <;> rfl
          have hword : Phrase "AS".toList [.lexeme (.word "AS".toList)] := .word rfl
          have hinside := hselector.phrase.marked (c := ' ') rfl
            (hword.marked (c := ' ') rfl htype)
          refine (Term.call "TRY_CAST" rfl ⟨rfl, rfl, rfl⟩ hinside).isTerm ?_
          simp [castSelector]

/-- A placeholder with a type. -/
theorem isTerm_typedPlaceholder (backend : Backend) (cast : Cast) :
    IsTerm (backend.typedPlaceholder cast) := by
  have hmark : Term ['?'] [.lexeme (.mark '?')] := .mark rfl rfl
  cases backend with
  | hana =>
      have hname : isBareWord ("TO_" ++ cast.sqlType).toList = true := by cases cast <;> rfl
      have hplain : Item.Plain (.lexeme (.word ("TO_" ++ cast.sqlType).toList)) := by
        cases cast <;> exact ⟨rfl, rfl, rfl⟩
      refine (Term.call ("TO_" ++ cast.sqlType) hname hplain hmark.phrase).isTerm ?_
      simp [typedPlaceholder]
  | duckdb =>
      have htype : Term cast.sqlType.toList [.lexeme (.word cast.sqlType.toList)] := by
        cases cast <;> exact .word rfl ⟨rfl, rfl, rfl⟩
      have hcolons := (htype.mark_cons (c := ':') rfl rfl).mark_cons (c := ':') rfl rfl
      refine (hcolons.mark_cons (c := '?') rfl rfl).isTerm ?_
      simp [typedPlaceholder]

end Backend

/-- The word of a comparison, `BETWEEN` apart. -/
theorem isTerm_keyword {op : Comparison} (h : op ≠ .between) : IsTerm op.keyword := by
  have hwords : ∀ text ∈ ["IN", "LIKE", "SCORE"],
      Term text.toList [.lexeme (.word text.toList)] := by
    intro text htext
    simp only [List.mem_cons, List.not_mem_nil, or_false] at htext
    rcases htext with rfl | rfl | rfl
    all_goals exact .word rfl ⟨rfl, rfl, rfl⟩
  have hequal : Term ['='] [.lexeme (.mark '=')] := .mark rfl rfl
  have hgreater : Term ['>'] [.lexeme (.mark '>')] := .mark rfl rfl
  cases op with
  | equal => exact ⟨_, hequal⟩
  | notEqual => exact ⟨_, hgreater.mark_cons (c := '<') rfl rfl⟩
  | less => exact ⟨_, .mark rfl rfl⟩
  | lessOrEqual => exact ⟨_, hequal.mark_cons (c := '<') rfl rfl⟩
  | greater => exact ⟨_, hgreater⟩
  | greaterOrEqual => exact ⟨_, hequal.mark_cons (c := '>') rfl rfl⟩
  | oneOf => exact ⟨_, hwords "IN" (by simp)⟩
  | noneOf =>
      have hnot : Term "NOT".toList [.lexeme (.word "NOT".toList)] :=
        .word rfl ⟨rfl, rfl, rfl⟩
      exact ⟨_, hnot.marked (c := ' ') rfl (hwords "IN" (by simp))⟩
  | between => exact absurd rfl h
  | like => exact ⟨_, hwords "LIKE" (by simp)⟩
  | contains => exact ⟨_, hwords "SCORE" (by simp)⟩

/-- Terms with commas between them. -/
theorem phrase_joined {texts : List String} (h : ∀ text ∈ texts, IsTerm text) :
    ∃ is, Phrase (Text.joined ", " texts).toList is := by
  induction texts with
  | nil => exact ⟨[], .nil⟩
  | cons text texts ih =>
      rw [List.forall_mem_cons] at h
      obtain ⟨is, his⟩ := h.1
      cases texts with
      | nil => exact ⟨is, his.phrase⟩
      | cons text' texts =>
          obtain ⟨js, hjs⟩ := ih h.2
          have hrest := his.phrase.marked (c := ',') rfl (hjs.mark_cons (c := ' ') rfl)
          have htext : (Text.joined ", " (text :: text' :: texts)).toList
              = text.toList ++ ',' :: ' ' :: (Text.joined ", " (text' :: texts)).toList := by
            simp [Text.joined]
          rw [htext]
          exact ⟨_, hrest⟩

end Sql

/-- What stands for a literal. -/
theorem Literal.isTerm_placeholderFor (backend : Backend) (cast : Option Cast) :
    Sql.IsTerm (Literal.placeholderFor backend cast) := by
  cases cast with
  | none => exact (Sql.Term.mark (c := '?') rfl rfl).isTerm (by simp [placeholderFor])
  | some cast => exact Sql.Backend.isTerm_typedPlaceholder backend cast

/-! ### Conditions -/

namespace Sql

/-- A term, a comparison and another term. -/
theorem isLeaf_compared {selector word operand : String} (hselector : IsTerm selector)
    (hword : IsTerm word) (hoperand : IsTerm operand) :
    IsLeaf (selector ++ " " ++ word ++ " " ++ operand) := by
  obtain ⟨is, his⟩ := hselector
  obtain ⟨ks, hks⟩ := hword
  obtain ⟨js, hjs⟩ := hoperand
  have hterm : Term (selector ++ " " ++ word ++ " " ++ operand).toList
      (is ++ .lexeme (.mark ' ') :: (ks ++ .lexeme (.mark ' ') :: js)) := by
    have hspaced := his.marked (c := ' ') rfl (hks.marked (c := ' ') rfl hjs)
    simpa using hspaced
  exact .of_term hterm ⟨.mark ' ', by simp⟩

/-- A term between two others. The `AND` between the bounds is read as
part of the `BETWEEN`. -/
theorem isLeaf_between {selector low high : String} (hselector : IsTerm selector)
    (hlow : IsTerm low) (hhigh : IsTerm high) :
    IsLeaf (selector ++ " BETWEEN " ++ low ++ " AND " ++ high) := by
  obtain ⟨is, his⟩ := hselector
  obtain ⟨ls, hls⟩ := hlow
  obtain ⟨hs, hhs⟩ := hhigh
  -- The items, cut where the two keywords stand.
  let before := is ++ [.lexeme (.mark ' ')]
  let middle := .lexeme (.mark ' ') :: (ls ++ [.lexeme (.mark ' ')])
  let after := .lexeme (.mark ' ') :: hs
  have hphrase : Phrase (selector ++ " BETWEEN " ++ low ++ " AND " ++ high).toList
      (before ++ .lexeme (.word "BETWEEN".toList) ::
        (middle ++ .lexeme (.word "AND".toList) :: after)) := by
    have hbetween : Phrase "BETWEEN".toList [.lexeme (.word "BETWEEN".toList)] := .word rfl
    have hand : Phrase "AND".toList [.lexeme (.word "AND".toList)] := .word rfl
    have hspaced := his.phrase.marked (c := ' ') rfl (hbetween.marked (c := ' ') rfl
      (hls.phrase.marked (c := ' ') rfl (hand.marked (c := ' ') rfl hhs.phrase)))
    simpa [before, middle, after] using hspaced
  have hbefore : ∀ i ∈ before, i.Plain := by
    rw [List.forall_mem_append, List.forall_mem_singleton]
    exact ⟨his.plain, Item.plain_mark ' '⟩
  have hmiddle : ∀ i ∈ middle, i.Plain := by
    rw [List.forall_mem_cons, List.forall_mem_append, List.forall_mem_singleton]
    exact ⟨Item.plain_mark ' ', hls.plain, Item.plain_mark ' '⟩
  have hafter : ∀ i ∈ after, i.Plain :=
    List.forall_mem_cons.mpr ⟨Item.plain_mark ' ', hhs.plain⟩
  refine .of_whole hphrase ?_ (conjuncts_between hbefore hmiddle hafter) ?_
    ⟨.mark ' ', by simp [before]⟩
  · -- No part has an `OR` in it, and neither keyword is one.
    intro i hi
    simp only [List.mem_append, List.mem_cons] at hi
    rcases hi with hi | rfl | hi | rfl | hi
    · exact (hbefore i hi).or
    · rfl
    · exact (hmiddle i hi).or
    · rfl
    · exact (hafter i hi).or
  · -- The selector comes first and the upper bound last.
    obtain ⟨i, rest, rfl, hi⟩ := his.tight.first
    obtain ⟨rest', j, rfl, hj⟩ := hhs.tight.last
    refine ⟨⟨i, _, rfl, hi⟩, ⟨before ++ .lexeme (.word "BETWEEN".toList) ::
      (middle ++ .lexeme (.word "AND".toList) :: .lexeme (.mark ' ') :: rest'), j, ?_, hj⟩⟩
    simp [after]

namespace Backend

/-- A search for a text. -/
theorem isLeaf_textSearch (backend : Backend) {selector placeholder : String}
    (hselector : IsTerm selector) (hplaceholder : IsTerm placeholder) :
    IsLeaf (backend.textSearch selector placeholder) := by
  obtain ⟨is, his⟩ := hselector
  obtain ⟨ps, hps⟩ := hplaceholder
  cases backend with
  | hana =>
      have hwords : ∀ text ∈ ["EXACT", "SEARCH", "MODE", "IN"],
          Phrase text.toList [.lexeme (.word text.toList)] := by
        intro text htext
        simp only [List.mem_cons, List.not_mem_nil, or_false] at htext
        rcases htext with rfl | rfl | rfl | rfl
        all_goals exact .word rfl
      have hmode : Phrase ('\x27' :: doubled '\x27' "text".toList ++ ['\x27'])
          [.lexeme (.quoted '\x27' "text".toList)] := .quoted rfl (by decide)
      have hinside := his.phrase.marked (c := ' ') rfl
        ((hwords "EXACT" (by simp)).marked (c := ' ') rfl
          ((hwords "SEARCH" (by simp)).marked (c := ' ') rfl
            ((hwords "MODE" (by simp)).marked (c := ' ') rfl hmode)))
      have hlist := hps.phrase.marked (c := ' ') rfl
        ((hwords "IN" (by simp)).marked (c := ' ') rfl hinside.group)
      -- The score is a term like a selector, and it is compared with zero.
      have hscore : IsTerm ("SCORE(" ++ placeholder ++ " IN (" ++ selector ++
          " EXACT SEARCH MODE 'text'))") := by
        refine (Term.call "SCORE" rfl ⟨rfl, rfl, rfl⟩ hlist).isTerm ?_
        simp [doubled]
      have hgreater : IsTerm ">" := (Term.mark (c := '>') rfl rfl).isTerm rfl
      have hzero : IsTerm "0" := ⟨_, .word rfl ⟨rfl, rfl, rfl⟩⟩
      have htext : hana.textSearch selector placeholder
          = "SCORE(" ++ placeholder ++ " IN (" ++ selector ++ " EXACT SEARCH MODE 'text'))" ++
            " " ++ ">" ++ " " ++ "0" := by
        rw [← String.toList_inj]
        simp [textSearch]
      rw [htext]
      exact isLeaf_compared hscore hgreater hzero
  | duckdb =>
      have hcall := Term.call "contains" rfl ⟨rfl, rfl, rfl⟩
        (his.phrase.marked (c := ',') rfl (hps.phrase.mark_cons (c := ' ') rfl))
      have htext : (duckdb.textSearch selector placeholder).toList = "contains".toList ++
          '(' :: ((selector.toList ++ ',' :: ' ' :: placeholder.toList) ++ [')']) := by
        simp [textSearch]
      rw [← htext] at hcall
      exact .of_term hcall ⟨_, List.mem_cons_self⟩

/-- A comparison of a selected property is a leaf. -/
theorem isLeaf_predicate (backend : Backend) {selector : String} {op : Comparison}
    {literals : List Literal} (hselector : IsTerm selector)
    (hfits : op.shape.Fits literals) (hliterals : ∀ l ∈ literals, IsTerm l.placeholder) :
    IsLeaf (backend.predicate selector op literals) := by
  have hcast := isTerm_castSelector backend hselector (Literal.sharedCast literals)
  unfold predicate
  generalize hshape : op.shape = shape at hfits
  cases hfits with
  | binary l =>
      have hword : IsTerm op.keyword := isTerm_keyword (by rintro rfl; cases hshape)
      exact isLeaf_compared hcast hword (hliterals l (by simp))
  -- A search does not convert the selector.
  | textSearch l => exact isLeaf_textSearch backend hselector (hliterals l (by simp))
  | range low high =>
      obtain rfl : op = .between := by
        cases op with
        | between => rfl
        | _ => cases hshape
      have hleaf := isLeaf_between hcast (hliterals low (by simp)) (hliterals high (by simp))
      have htext : ∀ a b c : String,
          a ++ " " ++ Comparison.between.keyword ++ " " ++ b ++ " AND " ++ c
            = a ++ " BETWEEN " ++ b ++ " AND " ++ c := by
        intro a b c
        rw [← String.toList_inj]
        simp [Comparison.keyword]
      rw [← htext] at hleaf
      exact hleaf
  | list l ls =>
      have hword : IsTerm op.keyword := isTerm_keyword (by rintro rfl; cases hshape)
      obtain ⟨is, his⟩ := phrase_joined (List.forall_mem_map.mpr hliterals)
      have hlist : IsTerm ("(" ++
          Text.joined ", " ((l :: ls).map Literal.placeholder) ++ ")") := by
        refine (Term.group his).isTerm ?_
        simp
      have hleaf := isLeaf_compared hcast hword hlist
      have htext : ∀ a b c : String, a ++ " " ++ b ++ " (" ++ c ++ ")"
          = a ++ " " ++ b ++ " " ++ ("(" ++ c ++ ")") := by
        intro a b c
        rw [← String.toList_inj]
        simp
      rw [← htext] at hleaf
      exact hleaf

end Backend

end Sql

namespace Compiler

variable (compiler : Compiler)

/-- Every key that is let through selects with a term. -/
theorem isTerm_selectorText {key : String} (h : compiler.layout.keyDefects key = []) :
    Sql.IsTerm (compiler.layout.selectorText key) := by
  obtain ⟨hkey, hname | hpath⟩ := compiler.selectorText_cases h
  · rw [hname]
    exact Sql.isTerm_quotedName hkey
  · rw [hpath]
    exact Sql.Backend.isTerm_jsonValue _ compiler.not_mem_metadataColumn hkey

/-- A condition without defects is a leaf. -/
theorem isLeaf_propertyFragment {key : String} {condition : Condition}
    (h : compiler.layout.propertyDefects key condition = []) :
    Sql.IsLeaf (compiler.layout.propertyFragment key condition).sql := by
  simp only [Layout.propertyDefects, List.append_eq_nil_iff] at h
  obtain ⟨hkey, hshape, -⟩ := h
  refine Sql.Backend.isLeaf_predicate _ (compiler.isTerm_selectorText hkey)
    ((Condition.fits_literals hshape).map _) ?_
  intro l hl
  obtain ⟨v, -, rfl⟩ := List.mem_map.mp hl
  exact Literal.isTerm_placeholderFor _ _

end Compiler

end FilterSql
