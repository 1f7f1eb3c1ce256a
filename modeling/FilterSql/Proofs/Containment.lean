import FilterSql.Proofs.BooleanStructure

/-!
# `FilterSql.Proofs.Containment`: a clause cannot be broken out of

Keys, values and the names of columns come from outside. Whatever they
hold, the text of a condition is one that a database scans to its end
without an open quotation, in which every placeholder is outside
quotations and every parenthesis has its partner, and which has no
semicolon, no hyphen and no comment outside quotations.

* `Sql.Contained`: what is asked of a text.
* `Sql.Phrase.contained`: every phrase is such a text.
* `Compiler.build_cases`: a clause is empty, or a compiled filter
  behind `WHERE`.
-/

set_option autoImplicit false

namespace FilterSql

namespace Sql

/-- What of a lexeme stands outside quotations. -/
def Lexeme.outside : Lexeme → List Char
  | quoted _ _ => []
  | l => l.source

/-- What is meant by a quotation. -/
def Lexeme.inside : Lexeme → List Char
  | quoted _ body => body
  | _ => []

/-- A text with these lexemes that cannot be broken out of. -/
structure Contained (text : String) (ls : List Lexeme) : Prop where
  /-- The scan ends outside quotations. -/
  scanned : lexemes text.toList = some ls
  /-- The lexemes are all of the text. -/
  whole : ls.flatMap Lexeme.source = text.toList
  /-- Only letters, zeros and a few marks are outside quotations. -/
  outside : ∀ c ∈ ls.flatMap Lexeme.outside, isBare c = true
  /-- No placeholder is inside a quotation. -/
  inside : '?' ∉ ls.flatMap Lexeme.inside
  balanced : Balanced ls

/-- Nothing unusual is outside of harmless lexemes. -/
theorem isBare_of_mem_outside {l : Lexeme} (h : l.Harmless) {c : Char}
    (hc : c ∈ l.outside) : isBare c = true := by
  cases l with
  | word cs => exact h c hc
  | quoted quote body => cases hc
  | mark d =>
      rw [List.mem_singleton.mp hc]
      exact h

/-- No question mark is inside of harmless lexemes. -/
theorem not_mem_inside {l : Lexeme} (h : l.Harmless) : '?' ∉ l.inside := by
  cases l with
  | word cs => exact List.not_mem_nil
  | quoted quote body => exact h
  | mark d => exact List.not_mem_nil

/-- A phrase cannot be broken out of. -/
theorem Phrase.contained {text : String} {is : List Item} (h : Phrase text.toList is) :
    ∃ ls, Contained text ls := by
  obtain ⟨ls, hls⟩ := h
  refine ⟨ls, hls.lexemes_eq, hls.chars, ?_, ?_, balanced_of_grouped hls.grouped_eq⟩
  · intro c hc
    obtain ⟨l, hl, hc⟩ := List.mem_flatMap.mp hc
    exact isBare_of_mem_outside (hls.harmless l hl) hc
  · intro hmark
    obtain ⟨l, hl, hmark⟩ := List.mem_flatMap.mp hmark
    exact not_mem_inside (hls.harmless l hl) hmark

/-- A keyword in front of a phrase. -/
theorem phrase_where {text : String} {is : List Item} (h : Phrase text.toList is) :
    ∃ js, Phrase ("WHERE " ++ text).toList js := by
  have hword : Phrase "WHERE".toList [.lexeme (.word "WHERE".toList)] := .word rfl
  have hspaced := hword.marked (c := ' ') rfl h
  have htext : ("WHERE " ++ text).toList = "WHERE".toList ++ ' ' :: text.toList := by simp
  rw [← htext] at hspaced
  exact ⟨_, hspaced⟩

end Sql

namespace Compiler

variable (compiler : Compiler)

/-- A clause that is built is empty, or it is a compiled filter with
`WHERE` in front. -/
theorem build_cases {filter : Option Filter} {clause : WhereClause}
    (h : (compiler.build filter).outcome = .ok clause) :
    clause = .empty ∨ ∃ t fragment, filter = some t ∧
      (compiler.compile t).outcome = .ok fragment ∧ clause = .ofFragment fragment := by
  cases filter with
  | none =>
      cases h
      exact .inl rfl
  | some t =>
      cases hempty : t.isEmpty with
      | true =>
          rw [build, if_pos hempty] at h
          cases h
          exact .inl rfl
      | false =>
          -- The check of placeholders against parameters cannot get in between.
          rw [compiler.build_outcome hempty] at h
          cases hcompile : (compiler.compile t).outcome with
          | error e =>
              rw [hcompile] at h
              cases h
          | ok fragment =>
              rw [hcompile] at h
              cases h
              exact .inr ⟨t, fragment, rfl, hcompile, rfl⟩

/-- No text that is compiled or built can be broken out of, whatever
the names of the columns, the keys and the values hold. -/
theorem text_contained :
    (∀ (t : Filter) (fragment : Fragment), (compiler.compile t).outcome = .ok fragment →
      ∃ ls, Sql.Contained fragment.sql ls) ∧
    ∀ (filter : Option Filter) (clause : WhereClause),
      (compiler.build filter).outcome = .ok clause → ∃ ls, Sql.Contained clause.sql ls := by
  constructor
  · intro t fragment h
    obtain ⟨is, hphrase, -⟩ := (compiler.means_compile h).reads
    exact hphrase.contained
  · intro filter clause h
    rcases compiler.build_cases h with rfl | ⟨t, fragment, -, hcompile, rfl⟩
    · exact Sql.Phrase.contained Sql.Phrase.nil
    · obtain ⟨is, hphrase, -⟩ := (compiler.means_compile hcompile).reads
      obtain ⟨js, hwhere⟩ := Sql.phrase_where hphrase
      exact hwhere.contained

/-- A name with a quote, a parenthesis and a connective in it stays
inside its quotation. -/
theorem text_contained_awkward :
    ∃ fragment, (awkward.compile awkwardFilter).outcome = .ok fragment ∧
      (awkward.build (some awkwardFilter)).outcome = .ok (.ofFragment fragment) ∧
      (∃ ls, Sql.Contained fragment.sql ls) ∧
      ∃ ls, Sql.Contained (WhereClause.ofFragment fragment).sql ls := by
  obtain ⟨fragment, hcompile⟩ :
      ∃ fragment, (awkward.compile awkwardFilter).outcome = .ok fragment := ⟨_, rfl⟩
  have hbuild : (awkward.build (some awkwardFilter)).outcome
      = .ok (.ofFragment fragment) := by
    rw [awkward.build_outcome rfl, hcompile]
    rfl
  exact ⟨fragment, hcompile, hbuild, awkward.text_contained.1 awkwardFilter _ hcompile,
    awkward.text_contained.2 (some awkwardFilter) _ hbuild⟩

end Compiler

end FilterSql
