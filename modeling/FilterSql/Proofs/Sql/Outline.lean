import FilterSql.Sql.Backend
import FilterSql.Proofs.Sql.Phrase

/-!
# `FilterSql.Proofs.Sql.Outline`: what can be told from a text

A text of SQL is taken apart into lexemes in one way only, so whatever
is collected from its lexemes is a function of the text. Three things
are collected here, each in the order in which it stands in the text:
the quotations, the signs of comparisons, and the placeholders together
with the names of types. Nothing inside a quotation is taken for a sign
or a type.

* `Sql.lexemes_marked`: a mark outside quotations cuts the lexemes of a
  text, so an outline can be put together piece by piece.
* `Sql.Shows`: a text and its outline.
* `Sql.Shows.unique`: a text has one outline.
-/

set_option autoImplicit false

namespace FilterSql.Sql

/-! ### Cutting a text at a mark -/

/-- One more character at the front stays in front of a mark. -/
theorem ahead_append_mark (c d : Char) (ls ms : List Lexeme) :
    ahead c (ls ++ .mark d :: ms) = ahead c ls ++ .mark d :: ms := by
  cases ls with
  | nil => by_cases hc : isWordChar c = true <;> simp [ahead, hc]
  | cons l ls =>
      cases l with
      | word _ => by_cases hc : isWordChar c = true <;> simp [ahead, hc]
      | quoted _ _ => by_cases hc : isWordChar c = true <;> simp [ahead, hc]
      | mark _ => by_cases hc : isWordChar c = true <;> simp [ahead, hc]

/-- Two texts with a mark between them. The recursion is that of the
scanner over the first text. -/
theorem lexemes_marked {d : Char} (hd : (Lexeme.mark d).Proper) {cs ds : List Char}
    {ls ms : List Lexeme} (h : lexemes cs = some ls) (h' : lexemes ds = some ms) :
    lexemes (cs ++ d :: ds) = some (ls ++ .mark d :: ms) := by
  induction hn : cs.length using Nat.strong_induction_on generalizing cs ls with
  | _ n ih =>
      cases cs with
      | nil =>
          rw [lexemes_nil, Option.some.injEq] at h
          subst h
          rw [List.nil_append, lexemes_cons hd.2, h', Option.map_some]
          cases ms with
          | nil => simp [ahead, hd.1]
          | cons m ms => cases m <;> simp [ahead, hd.1]
      | cons c cs =>
          rw [List.length_cons] at hn
          cases hquote : isQuote c with
          | false =>
              rw [lexemes_cons hquote, Option.map_eq_some_iff] at h
              obtain ⟨ls, hls, rfl⟩ := h
              rw [List.cons_append, lexemes_cons hquote, ih cs.length (by omega) hls rfl,
                Option.map_some, ahead_append_mark]
          | true =>
              cases hread : readQuoted c cs with
              | none =>
                  rw [lexemes, if_pos hquote] at h
                  split at h
                  · cases h
                  · next hsome =>
                      rw [hread] at hsome
                      cases hsome
              | some r =>
                  obtain ⟨body, rest⟩ := r
                  have hne : d ≠ c := by
                    rintro rfl
                    rw [hd.2] at hquote
                    cases hquote
                  have hshorter := length_of_readQuoted hread
                  rw [lexemes_of_readQuoted hquote hread, Option.map_eq_some_iff] at h
                  obtain ⟨ls, hls, rfl⟩ := h
                  -- The mark is no quote, so the quotation ends before it.
                  have hlonger := readQuoted_append hne hread ds
                  rw [List.cons_append, lexemes_of_readQuoted hquote hlonger,
                    ih rest.length (by omega) hls rfl, Option.map_some, List.cons_append]

/-! ### Outlines -/

/-- The type that a word names, by itself or as the function that
converts to it. -/
def typeOfWord (cs : List Char) : Option Cast :=
  [Cast.boolean, .double, .date].find? fun cast =>
    cs = cast.sqlType.toList || cs = ("TO_" ++ cast.sqlType).toList

/-- The marks that only keep things apart. -/
def isSeparator (c : Char) : Bool :=
  c ∈ [' ', ',', '(', ')', ':']

/-- The words that tell comparisons apart. -/
def isSignWord (cs : List Char) : Bool :=
  ["NOT", "IN", "BETWEEN", "LIKE", "SCORE", "contains"].any fun text => text.toList = cs

namespace Lexeme

/-- A quotation, with its quote. -/
def quotations : Lexeme → List (Char × List Char)
  | quoted quote body => [(quote, body)]
  | _ => []

/-- A word or a mark that tells comparisons apart. -/
def signs : Lexeme → List Lexeme
  | word cs => if isSignWord cs then [word cs] else []
  | mark c => if c ∈ ['=', '<', '>'] then [mark c] else []
  | _ => []

/-- A placeholder, or the name of a type. -/
def types : Lexeme → List (Option Cast)
  | word cs => ((typeOfWord cs).map some).toList
  | mark c => if c = '?' then [none] else []
  | _ => []

end Lexeme

/-- The quotations, the signs and the types of a text, each in order. A
placeholder counts among the types as `none`. -/
structure Outline where
  quotations : List (Char × List Char)
  signs : List Lexeme
  types : List (Option Cast)

namespace Outline

/-- One outline after the other. -/
def append (o p : Outline) : Outline where
  quotations := o.quotations ++ p.quotations
  signs := o.signs ++ p.signs
  types := o.types ++ p.types

instance : Append Outline := ⟨append⟩

theorem append_eq (o p : Outline) :
    o ++ p = ⟨o.quotations ++ p.quotations, o.signs ++ p.signs, o.types ++ p.types⟩ := rfl

/-- The outline of a row of lexemes. -/
def ofLexemes (ls : List Lexeme) : Outline where
  quotations := ls.flatMap Lexeme.quotations
  signs := ls.flatMap Lexeme.signs
  types := ls.flatMap Lexeme.types

theorem ofLexemes_append (ls ms : List Lexeme) :
    ofLexemes (ls ++ ms) = ofLexemes ls ++ ofLexemes ms := by
  simp only [ofLexemes, List.flatMap_append]
  rfl

end Outline

/-- A text and its outline. -/
def Shows (cs : List Char) (o : Outline) : Prop :=
  (lexemes cs).map Outline.ofLexemes = some o

namespace Shows

variable {cs ds : List Char} {o p : Outline}

/-- A text has one outline. -/
theorem unique (h : Shows cs o) (h' : Shows cs p) : o = p := by
  rw [Shows, h, Option.some.injEq] at h'
  exact h'

/-- The same text with the same outline, in other words. -/
theorem congr (h : Shows cs o) (hcs : ds = cs) (ho : o = p) : Shows ds p := by
  rw [hcs, ← ho]
  exact h

theorem nil : Shows [] ⟨[], [], []⟩ := by
  rw [Shows, lexemes_nil]
  rfl

/-- One lexeme by itself. -/
theorem lexeme {l : Lexeme} (h : l.Proper) : Shows l.source (.ofLexemes [l]) := by
  have hlexemes := lexemes_source [l] (List.forall_mem_singleton.mpr h) (List.isChain_singleton l)
  rw [List.flatMap_singleton] at hlexemes
  rw [Shows, hlexemes, Option.map_some]

/-- A word is one lexeme. -/
theorem word (h : isBareWord cs = true) : Shows cs (.ofLexemes [.word cs]) := by
  simp only [isBareWord, Bool.and_eq_true, Bool.not_eq_true', List.isEmpty_eq_false_iff,
    List.all_eq_true] at h
  exact lexeme (l := .word cs) ⟨h.1, fun c hc => (h.2 c hc).2⟩

/-- A quotation shows what is quoted. The signs in it do not count. -/
theorem quoted (quote : Char) (hquote : isQuote quote = true) (body : List Char) :
    Shows (quote :: doubled quote body ++ [quote]) ⟨[(quote, body)], [], []⟩ :=
  lexeme (l := .quoted quote body) hquote

/-- Two texts with a mark between them. -/
theorem marked {c : Char} (hc : (Lexeme.mark c).Proper) (h : Shows cs o) (h' : Shows ds p) :
    Shows (cs ++ c :: ds) (o ++ (.ofLexemes [.mark c] ++ p)) := by
  obtain ⟨ls, hls, rfl⟩ := Option.map_eq_some_iff.mp h
  obtain ⟨ms, hms, rfl⟩ := Option.map_eq_some_iff.mp h'
  rw [Shows, lexemes_marked hc hls hms, Option.map_some, ← List.singleton_append,
    Outline.ofLexemes_append, Outline.ofLexemes_append]

/-- A separator does not show. -/
theorem parted {c : Char} (hc : isSeparator c = true) (h : Shows cs o) (h' : Shows ds p) :
    Shows (cs ++ c :: ds) (o ++ p) := by
  have hmark : (Lexeme.mark c).Proper ∧ Outline.ofLexemes [.mark c] = ⟨[], [], []⟩ := by
    simp only [isSeparator, List.mem_cons, List.not_mem_nil, or_false, decide_eq_true_eq] at hc
    rcases hc with rfl | rfl | rfl | rfl | rfl
    all_goals exact ⟨⟨rfl, rfl⟩, rfl⟩
  refine (marked hmark.1 h h').congr rfl ?_
  rw [hmark.2]
  rfl

/-- A text in parentheses. -/
theorem group (h : Shows cs o) : Shows ('(' :: (cs ++ [')'])) o := by
  have hinside := h.parted (c := ')') rfl nil
  refine (nil.parted (c := '(') rfl hinside).congr rfl ?_
  simp [Outline.append_eq]

/-- A function with its arguments. -/
theorem call {name : List Char} (hname : Shows name o) (h : Shows cs p) :
    Shows (name ++ '(' :: (cs ++ [')'])) (o ++ p) := by
  refine (hname.parted (c := '(') rfl (h.parted (c := ')') rfl nil)).congr rfl ?_
  simp [Outline.append_eq]

end Shows

end FilterSql.Sql
