import FilterSql.Proofs.Sql.Reading

/-!
# `FilterSql.Proofs.Sql.Phrase`: texts that are read piece by piece

A phrase is a text whose lexemes can be written down and whose
parentheses match, so the reader takes it in as a list of items
wherever it stands. Outside quotations it holds only a few harmless
characters, and inside them no question mark. Phrases are put together
from words, quotations and marks by putting a mark between two of them
and by putting one into parentheses.

* `Sql.Spelling`: a text, its lexemes and its items.
* `Sql.Spelling.append`, `Sql.Spelling.group`: the two ways in which
  texts grow.
* `Sql.Phrase.read_eq`: a phrase is read as its items are, and
  `Sql.Reads` says what that is.
* `Sql.balanced_of_grouped`: what is read has matching parentheses.
-/

set_option autoImplicit false

namespace FilterSql.Sql

/-! ### Characters -/

/-- The characters that may stand outside quotations. -/
def isBare (c : Char) : Bool :=
  c.isAlpha || c ∈ ['0', '_', '(', ')', ',', '=', '<', '>', ':', '?', ' ']

/-- Characters outside words and quotations that stand for themselves,
parentheses apart. -/
def isMark (c : Char) : Bool :=
  isBare c && !isWordChar c && !isQuote c && c ≠ '(' && c ≠ ')'

/-- Letters, zeros and underscores in a row. -/
def isBareWord (cs : List Char) : Bool :=
  !cs.isEmpty && cs.all fun c => isBare c && isWordChar c

/-- A lexeme that no harm can come from: no unusual character outside
quotations, and no question mark inside. -/
def Lexeme.Harmless : Lexeme → Prop
  | word cs => ∀ c ∈ cs, isBare c = true
  | quoted _ body => '?' ∉ body
  | mark c => isBare c = true

/-! ### Spellings -/

/-- A text, its lexemes, and the items that they are grouped to. -/
structure Spelling (cs : List Char) (ls : List Lexeme) (is : List Item) : Prop where
  chars : ls.flatMap Lexeme.source = cs
  items : is.flatMap Item.source = cs
  proper : ∀ l ∈ ls, l.Proper
  apart : ls.IsChain Lexeme.Apart
  harmless : ∀ l ∈ ls, l.Harmless
  /-- The reader takes in the items, whatever it has read before and
  whatever comes after. -/
  shifts : ∀ outer read rest,
    grouped outer read (ls ++ rest) = grouped outer (read ++ is) rest

namespace Spelling

/-- A lexeme that is no parenthesis. -/
theorem lexeme {l : Lexeme} (hproper : l.Proper) (hharmless : l.Harmless)
    (hopen : l ≠ .mark '(') (hclose : l ≠ .mark ')') :
    Spelling l.source [l] [.lexeme l] where
  chars := List.flatMap_singleton _ _
  items := List.flatMap_singleton _ _
  proper := by
    intro m hm
    rwa [List.mem_singleton.mp hm]
  apart := List.isChain_singleton l
  harmless := by
    intro m hm
    rwa [List.mem_singleton.mp hm]
  shifts outer read rest := by
    rw [List.singleton_append, grouped_lexeme outer read hopen hclose]

theorem mark {c : Char} (h : isMark c = true) :
    Spelling [c] [.mark c] [.lexeme (.mark c)] := by
  simp only [isMark, Bool.and_eq_true, Bool.not_eq_true', decide_eq_true_eq] at h
  obtain ⟨⟨⟨⟨hbare, hword⟩, hquote⟩, hopen⟩, hclose⟩ := h
  exact lexeme (l := .mark c) ⟨hword, hquote⟩ hbare (by simpa using hopen)
    (by simpa using hclose)

/-- One text after the other. -/
theorem append {cs ds : List Char} {ls ms : List Lexeme} {is js : List Item}
    (h : Spelling cs ls is) (h' : Spelling ds ms js)
    (hends : ∀ l ∈ ls.getLast?, ∀ m ∈ ms.head?, l.Apart m) :
    Spelling (cs ++ ds) (ls ++ ms) (is ++ js) where
  chars := by rw [List.flatMap_append, h.chars, h'.chars]
  items := by rw [List.flatMap_append, h.items, h'.items]
  proper := List.forall_mem_append.mpr ⟨h.proper, h'.proper⟩
  apart := List.isChain_append.mpr ⟨h.apart, h'.apart, hends⟩
  harmless := List.forall_mem_append.mpr ⟨h.harmless, h'.harmless⟩
  shifts outer read rest := by
    rw [List.append_assoc, h.shifts, h'.shifts, List.append_assoc]

/-- A text in parentheses. -/
theorem group {cs : List Char} {ls : List Lexeme} {is : List Item}
    (h : Spelling cs ls is) :
    Spelling ('(' :: (cs ++ [')'])) (.mark '(' :: (ls ++ [.mark ')'])) [closed is] where
  chars := by
    rw [List.flatMap_cons, List.flatMap_append, h.chars]
    rfl
  items := by
    rw [List.flatMap_singleton, closed, Item.source, h.items]
    rfl
  proper := by
    have hopen : Lexeme.Proper (.mark '(') := ⟨rfl, rfl⟩
    have hclose : Lexeme.Proper (.mark ')') := ⟨rfl, rfl⟩
    rw [List.forall_mem_cons, List.forall_mem_append, List.forall_mem_singleton]
    exact ⟨hopen, h.proper, hclose⟩
  apart := by
    rw [List.isChain_cons, List.isChain_append]
    refine ⟨fun l _ => Lexeme.mark_apart _ l, h.apart, List.isChain_singleton _, ?_⟩
    intro l _ m hm
    obtain rfl : Lexeme.mark ')' = m := by simpa using hm
    exact Lexeme.apart_mark l _
  harmless := by
    have hopen : Lexeme.Harmless (.mark '(') := rfl
    have hclose : Lexeme.Harmless (.mark ')') := rfl
    rw [List.forall_mem_cons, List.forall_mem_append, List.forall_mem_singleton]
    exact ⟨hopen, h.harmless, hclose⟩
  shifts outer read rest := by
    -- The inside is taken in on an empty list of items and closed as a whole.
    rw [List.cons_append, List.append_assoc, List.singleton_append, grouped_open, h.shifts,
      List.nil_append, grouped_close]

/-- The lexemes of a spelling are what its text is scanned to. -/
theorem lexemes_eq {cs : List Char} {ls : List Lexeme} {is : List Item}
    (h : Spelling cs ls is) : lexemes cs = some ls := by
  rw [← h.chars]
  exact lexemes_source ls h.proper h.apart

/-- The items of a spelling are what its lexemes are grouped to. -/
theorem grouped_eq {cs : List Char} {ls : List Lexeme} {is : List Item}
    (h : Spelling cs ls is) : grouped [] [] ls = some is := by
  have hshift := h.shifts [] [] []
  rwa [List.append_nil, List.nil_append] at hshift

end Spelling

/-! ### Phrases -/

/-- A text that is grouped to these items. -/
def Phrase (cs : List Char) (is : List Item) : Prop :=
  ∃ ls, Spelling cs ls is

namespace Phrase

variable {cs ds : List Char} {is js : List Item}

theorem nil : Phrase [] [] :=
  ⟨[], rfl, rfl, by simp, List.isChain_nil, by simp, fun _ _ _ => by simp⟩

theorem word (h : isBareWord cs = true) : Phrase cs [.lexeme (.word cs)] := by
  simp only [isBareWord, Bool.and_eq_true, Bool.not_eq_true', List.isEmpty_eq_false_iff,
    List.all_eq_true] at h
  obtain ⟨hne, hall⟩ := h
  exact ⟨_, Spelling.lexeme (l := .word cs) ⟨hne, fun c hc => (hall c hc).2⟩
    (fun c hc => (hall c hc).1) (by simp) (by simp)⟩

/-- A quotation, which may hold no placeholder. -/
theorem quoted {quote : Char} {body : List Char} (hquote : isQuote quote = true)
    (hbody : '?' ∉ body) :
    Phrase (quote :: doubled quote body ++ [quote]) [.lexeme (.quoted quote body)] :=
  ⟨_, Spelling.lexeme (l := .quoted quote body) hquote hbody (by simp) (by simp)⟩

/-- A mark. -/
theorem mark {c : Char} (h : isMark c = true) : Phrase [c] [.lexeme (.mark c)] :=
  ⟨_, Spelling.mark h⟩

/-- Two phrases with a mark between them. Nothing runs into a mark, so
no more is asked of their ends. -/
theorem marked {c : Char} (hc : isMark c = true) (h : Phrase cs is) (h' : Phrase ds js) :
    Phrase (cs ++ c :: ds) (is ++ .lexeme (.mark c) :: js) := by
  obtain ⟨ls, hls⟩ := h
  obtain ⟨ms, hms⟩ := h'
  have hright := (Spelling.mark hc).append hms fun l hl m _ => by
    obtain rfl : Lexeme.mark c = l := by simpa using hl
    exact Lexeme.mark_apart c m
  exact ⟨_, hls.append hright fun l _ m hm => by
    obtain rfl : Lexeme.mark c = m := by simpa using hm
    exact Lexeme.apart_mark l c⟩

/-- A mark in front of a phrase. -/
theorem mark_cons {c : Char} (hc : isMark c = true) (h : Phrase cs is) :
    Phrase (c :: cs) (.lexeme (.mark c) :: is) :=
  marked hc nil h

/-- A phrase in parentheses is one item. -/
theorem group (h : Phrase cs is) : Phrase ('(' :: (cs ++ [')'])) [closed is] := by
  obtain ⟨ls, hls⟩ := h
  exact ⟨_, hls.group⟩

/-- A function with its arguments. -/
theorem call {name : List Char} (hname : isBareWord name = true) (h : Phrase cs is) :
    Phrase (name ++ '(' :: (cs ++ [')'])) [.lexeme (.word name), closed is] := by
  obtain ⟨ls, hls⟩ := word hname
  obtain ⟨ms, hms⟩ := h
  refine ⟨_, hls.append hms.group ?_⟩
  intro l _ m hm
  obtain rfl : Lexeme.mark '(' = m := by simpa using hm
  exact Lexeme.apart_mark l '('

/-- A phrase is read as its items are. -/
theorem read_eq {text : String} (h : Phrase text.toList is) :
    read text = condition is := by
  obtain ⟨ls, hls⟩ := h
  rw [read, hls.lexemes_eq]
  show (grouped [] [] ls >>= condition) = _
  rw [hls.grouped_eq]
  rfl

end Phrase

/-- A phrase that is read as this formula. -/
def Reads (text : String) (φ : Formula String) : Prop :=
  ∃ is, Phrase text.toList is ∧ condition is = some φ

/-- A text that is read as a formula is read as nothing else. -/
theorem Reads.read_eq {text : String} {φ : Formula String} (h : Reads text φ) :
    read text = some φ := by
  obtain ⟨is, hphrase, hcondition⟩ := h
  rw [hphrase.read_eq, hcondition]

/-! ### Matching parentheses -/

/-- Every parenthesis that is closed has been opened, and every one
that is opened is closed in the end. -/
structure Balanced (ls : List Lexeme) : Prop where
  opened : ∀ k, (ls.take k).count (.mark ')') ≤ (ls.take k).count (.mark '(')
  closed : ls.count (.mark ')') = ls.count (.mark '(')

/-- The reader gets through only if it never closes more than is open.
The open groups around it are counted as well. -/
theorem count_of_grouped {outer : List (List Item)} {before is : List Item}
    {ls : List Lexeme} (h : grouped outer before ls = some is) :
    (∀ k, (ls.take k).count (.mark ')') ≤ (ls.take k).count (.mark '(') + outer.length) ∧
      ls.count (.mark ')') = ls.count (.mark '(') + outer.length := by
  induction ls generalizing outer before with
  | nil =>
      have hempty : outer = [] := by
        by_contra hne
        simp [grouped, hne] at h
      simp [hempty]
  | cons l ls ih =>
      by_cases hopen : l = .mark '('
      · -- One more group is open behind the parenthesis.
        subst hopen
        rw [grouped_open] at h
        obtain ⟨hpart, hall⟩ := ih h
        rw [List.length_cons] at hall
        refine ⟨fun k => ?_, by simp; omega⟩
        cases k with
        | zero => simp
        | succ k =>
            have := hpart k
            rw [List.length_cons] at this
            simp
            omega
      · by_cases hclose : l = .mark ')'
        · subst hclose
          cases outer with
          | nil =>
              rw [grouped_close_nil] at h
              cases h
          | cons top outer =>
              -- One group fewer is open, and there was one to close.
              rw [grouped_close] at h
              obtain ⟨hpart, hall⟩ := ih h
              refine ⟨fun k => ?_, by simp; omega⟩
              cases k with
              | zero => simp
              | succ k =>
                  have := hpart k
                  simp
                  omega
        · rw [grouped_lexeme outer before hopen hclose] at h
          obtain ⟨hpart, hall⟩ := ih h
          refine ⟨fun k => ?_, by simpa [List.count_cons, hopen, hclose] using hall⟩
          cases k with
          | zero => simp
          | succ k => simpa [List.count_cons, hopen, hclose] using hpart k

/-- What the reader gets through has matching parentheses. -/
theorem balanced_of_grouped {ls : List Lexeme} {is : List Item}
    (h : grouped [] [] ls = some is) : Balanced ls := by
  obtain ⟨hpart, hall⟩ := count_of_grouped h
  exact ⟨hpart, hall⟩

end FilterSql.Sql
