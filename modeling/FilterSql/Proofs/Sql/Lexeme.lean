import FilterSql.Proofs.Sql.Quotation
import Mathlib.Data.List.Chain

/-!
# `FilterSql.Proofs.Sql.Lexeme`: SQL text as a database takes it apart

A database reads a text from left to right: a quote starts a quotation
that goes on to the next such quote that does not stand twice, letters
and digits in a row are one word, and every other character stands for
itself. Nothing inside a quotation counts.

* `Sql.lexemes`: the lexemes of a text, unless a quotation does not
  end.
* `Sql.lexemes_source`: a text that is written lexeme by lexeme is
  read as these lexemes, if no two neighbours run into each other.
-/

set_option autoImplicit false

namespace FilterSql.Sql

/-- The characters that start and end a quotation. -/
def isQuote (c : Char) : Bool :=
  c = '"' || c = '\x27'

/-- The characters of words. -/
def isWordChar (c : Char) : Bool :=
  c.isAlphanum || c = '_'

/-- What a text is made of. -/
inductive Lexeme where
  /-- Letters, digits and underscores in a row. -/
  | word (cs : List Char)
  /-- A quotation; `body` is what is meant by it. -/
  | quoted (quote : Char) (body : List Char)
  /-- Any other character. -/
  | mark (c : Char)
deriving DecidableEq

/-- How a lexeme is written. -/
def Lexeme.source : Lexeme → List Char
  | word cs => cs
  | quoted quote body => quote :: doubled quote body ++ [quote]
  | mark c => [c]

/-! ### Reading -/

/-- The lexemes after one more character at the front. It goes into a
word that is there, if it can. -/
def ahead (c : Char) : List Lexeme → List Lexeme
  | .word cs :: ls =>
    if isWordChar c then .word (c :: cs) :: ls else .mark c :: .word cs :: ls
  | ls => if isWordChar c then .word [c] :: ls else .mark c :: ls

/-- The lexemes of a text; `none` if it ends inside a quotation. -/
def lexemes (cs : List Char) : Option (List Lexeme) :=
  match cs with
  | [] => some []
  | c :: cs =>
    if isQuote c then
      match _ : readQuoted c cs with
      | none => none
      | some (body, rest) => (lexemes rest).map (Lexeme.quoted c body :: ·)
    else (lexemes cs).map (ahead c)
termination_by cs.length
decreasing_by
  · have := length_of_readQuoted ‹readQuoted _ _ = some _›
    simp only [List.length_cons]
    omega
  · simp

@[simp] theorem lexemes_nil : lexemes [] = some [] := by
  rw [lexemes]

/-- A quotation, with what follows it. -/
theorem lexemes_of_readQuoted {quote : Char} {cs body rest : List Char}
    (hquote : isQuote quote = true) (h : readQuoted quote cs = some (body, rest)) :
    lexemes (quote :: cs) = (lexemes rest).map (Lexeme.quoted quote body :: ·) := by
  rw [lexemes, if_pos hquote]
  split
  · next hnone =>
      rw [h] at hnone
      cases hnone
  · next body' rest' hsome =>
      rw [h, Option.some.injEq, Prod.mk.injEq] at hsome
      obtain ⟨rfl, rfl⟩ := hsome
      rfl

/-- A character outside quotations. -/
theorem lexemes_cons {c : Char} (hc : isQuote c = false) (cs : List Char) :
    lexemes (c :: cs) = (lexemes cs).map (ahead c) := by
  rw [lexemes, if_neg (by simp [hc])]

/-! ### What is written is what is read -/

namespace Lexeme

/-- A lexeme that can be read as it is written. -/
def Proper : Lexeme → Prop
  | word cs => cs ≠ [] ∧ ∀ c ∈ cs, isWordChar c = true
  | quoted quote _ => isQuote quote = true
  | mark c => isWordChar c = false ∧ isQuote c = false

/-- Two lexemes that can stand side by side: two words would be one,
and two quotations with the same quote would be one too. -/
def Apart : Lexeme → Lexeme → Prop
  | word _, word _ => False
  | quoted quote _, quoted quote' _ => quote ≠ quote'
  | _, _ => True

/-- A mark ends whatever stands in front of it. -/
@[simp] theorem apart_mark (l : Lexeme) (c : Char) : l.Apart (mark c) := by
  cases l <;> trivial

/-- And nothing behind it belongs to it. -/
@[simp] theorem mark_apart (c : Char) (l : Lexeme) : (mark c).Apart l := by
  cases l <;> trivial

/-- What can follow one word can follow any. -/
theorem Apart.of_word {cs : List Char} {l : Lexeme} (h : (word cs).Apart l)
    (ds : List Char) : (word ds).Apart l := by
  cases l <;> exact h

/-- Quotes do not stand in words. -/
theorem isQuote_of_isWordChar {c : Char} (h : isWordChar c = true) : isQuote c = false := by
  by_contra hquote
  simp only [isQuote, Bool.not_eq_false, Bool.or_eq_true, decide_eq_true_eq] at hquote
  rcases hquote with rfl | rfl
  · exact absurd h (by decide)
  · exact absurd h (by decide)

/-- The first character of a text after a quotation does not go on
with it. -/
theorem head?_source_ne {quote : Char} {body : List Char} {ls : List Lexeme}
    (hquote : isQuote quote = true) (hproper : ∀ l ∈ ls, l.Proper)
    (hapart : ∀ l ∈ ls.head?, (quoted quote body).Apart l) :
    (ls.flatMap source).head? ≠ some quote := by
  cases ls with
  | nil => simp
  | cons l ls =>
      have hl := hproper l List.mem_cons_self
      have ha := hapart l rfl
      cases l with
      | word cs =>
          -- No character of a word is a quote.
          obtain ⟨hne, hword⟩ := hl
          cases cs with
          | nil => exact absurd rfl hne
          | cons c cs =>
              intro h
              simp only [List.flatMap_cons, source, List.cons_append, List.head?_cons,
                Option.some.injEq] at h
              have := isQuote_of_isWordChar (hword c List.mem_cons_self)
              rw [h, hquote] at this
              cases this
      | quoted quote' body' =>
          intro h
          simp only [List.flatMap_cons, source, List.cons_append, List.head?_cons,
            Option.some.injEq] at h
          exact ha h.symm
      | mark c =>
          intro h
          simp only [List.flatMap_cons, source, List.cons_append, List.head?_cons,
            Option.some.injEq] at h
          have := hl.2
          rw [h, hquote] at this
          cases this

end Lexeme

open Lexeme

/-- A word goes to its end, since no word follows it. -/
theorem lexemes_word_append {cs rest : List Char} {ls : List Lexeme} (hne : cs ≠ [])
    (hword : ∀ c ∈ cs, isWordChar c = true) (hrest : lexemes rest = some ls)
    (hapart : ∀ l ∈ ls.head?, (word cs).Apart l) :
    lexemes (cs ++ rest) = some (word cs :: ls) := by
  induction cs with
  | nil => exact absurd rfl hne
  | cons c cs ih =>
      rw [List.forall_mem_cons] at hword
      rw [List.cons_append, lexemes_cons (isQuote_of_isWordChar hword.1)]
      cases cs with
      | nil =>
          rw [List.nil_append, hrest, Option.map_some]
          cases ls with
          | nil => simp [ahead, hword.1]
          | cons l ls =>
              have ha := hapart l rfl
              cases l with
              -- Two words in a row would be read as one.
              | word ds => exact absurd ha id
              | quoted quote body => simp [ahead, hword.1]
              | mark d => simp [ahead, hword.1]
      | cons d cs =>
          have htail := ih (List.cons_ne_nil d cs) hword.2 fun l hl => (hapart l hl).of_word _
          rw [htail, Option.map_some]
          simp [ahead, hword.1]

/-- What is written lexeme by lexeme is read as these lexemes. The
induction is on the list; the three cases are the three ways in which
a lexeme ends. -/
theorem lexemes_source (ls : List Lexeme) (hproper : ∀ l ∈ ls, l.Proper)
    (hapart : ls.IsChain Apart) : lexemes (ls.flatMap source) = some ls := by
  induction ls with
  | nil => rw [List.flatMap_nil, lexemes_nil]
  | cons l ls ih =>
      rw [List.forall_mem_cons] at hproper
      rw [List.isChain_cons] at hapart
      obtain ⟨hl, hls⟩ := hproper
      have hrest := ih hls hapart.2
      rw [List.flatMap_cons]
      cases l with
      | word cs => exact lexemes_word_append hl.1 hl.2 hrest hapart.1
      | quoted quote body =>
          -- The quotation ends where it should, since no further quote follows it.
          have hhead := head?_source_ne hl hls hapart.1
          have hread := readQuoted_doubled quote body _ hhead
          rw [source, List.append_assoc, List.cons_append, List.singleton_append,
            lexemes_of_readQuoted hl hread, hrest, Option.map_some]
      | mark c =>
          rw [source, List.singleton_append, lexemes_cons hl.2, hrest, Option.map_some]
          cases ls with
          | nil => simp [ahead, hl.1]
          | cons m ls => cases m <;> simp [ahead, hl.1]

-- A quote that stands twice does not end its quotation.
example : lexemes "\"a\"\" \"".toList = some [.quoted '"' ['a', '"', ' ']] := by
  cbv

end FilterSql.Sql
