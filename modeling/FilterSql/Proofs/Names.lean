import FilterSql.Proofs.Predicate

/-!
# `FilterSql.Proofs.Names`: what a checked layout promises about names

Two kinds of foreign text end up inside a condition: the names of
columns, which may hold anything but a question mark, and keys, which
are either such names or paths of plain identifiers.

* `Layout.check_eq_ok_iff`: the names of a checked layout.
* `Layout.forall_mem_of_isPath`: the characters of a path.
* `Compiler.not_mem_of_isSpecific`, `Compiler.not_mem_metadataColumn`,
  `Layout.not_mem_of_isPath`: no question mark is in any of them.
* `Compiler.selectorText_cases`: how a key gets into a condition.
-/

set_option autoImplicit false

namespace FilterSql

namespace Layout

/-- The check of the dedicated columns, name by name. -/
theorem checkColumns_eq_ok_iff (names : List String) :
    checkColumns names = .ok () ↔
      ∀ name ∈ names, Text.allBlank name = false ∧ hasPlaceholder name = false := by
  induction names with
  | nil => simp [checkColumns]
  | cons name names ih =>
      rw [checkColumns, List.forall_mem_cons, ← ih]
      cases hblank : Text.allBlank name with
      | true => simp
      | false => cases hmark : hasPlaceholder name <;> simp

/-- No name of a checked layout is blank or holds a question mark. -/
theorem check_eq_ok_iff (layout : Layout) :
    layout.check = .ok () ↔
      (Text.allBlank layout.metadataColumn = false ∧
        hasPlaceholder layout.metadataColumn = false) ∧
      ∀ name ∈ layout.specificColumns,
        Text.allBlank name = false ∧ hasPlaceholder name = false := by
  rw [check, ← checkColumns_eq_ok_iff]
  cases hblank : Text.allBlank layout.metadataColumn with
  | true => simp
  | false => cases hmark : hasPlaceholder layout.metadataColumn <;> simp

/-- Whatever starts a segment may stand in it. -/
theorem inSegment_of_startsSegment {c : Char} (h : startsSegment c = true) :
    inSegment c = true := by
  simp only [startsSegment, inSegment, Char.isAlphanum, Bool.or_eq_true] at h ⊢
  rcases h with h | h
  · exact .inl (.inl h)
  · exact .inr h

/-- What goes on as a path is made of identifiers and points. -/
theorem forall_mem_of_isPathFrom {fresh : Bool} {cs : List Char}
    (h : isPathFrom fresh cs = true) : ∀ c ∈ cs, inSegment c = true ∨ c = '.' := by
  induction cs generalizing fresh with
  | nil => simp
  | cons c cs ih =>
      rw [List.forall_mem_cons]
      cases fresh with
      -- Where a segment starts, no point may stand.
      | true =>
          simp only [isPathFrom, Bool.and_eq_true] at h
          exact ⟨.inl (inSegment_of_startsSegment h.1), ih h.2⟩
      | false =>
          by_cases hpoint : c = '.'
          · simp only [isPathFrom, hpoint, if_true] at h
            exact ⟨.inr hpoint, ih h⟩
          · simp only [isPathFrom, hpoint, if_false, Bool.and_eq_true] at h
            exact ⟨.inl h.1, ih h.2⟩

/-- A path is made of identifiers and points. -/
theorem forall_mem_of_isPath {key : String} (h : isPath key = true) :
    ∀ c ∈ key.toList, inSegment c = true ∨ c = '.' :=
  forall_mem_of_isPathFrom h

/-- A path holds no character outside identifiers but the point. -/
theorem not_mem_of_isPath {key : String} (h : isPath key = true) {c : Char}
    (hc : inSegment c = false) (hpoint : c ≠ '.') : c ∉ key.toList := by
  intro hmem
  rcases forall_mem_of_isPath h c hmem with hseg | heq
  · rw [hc] at hseg
    cases hseg
  · exact hpoint heq

end Layout

namespace Compiler

/-- The metadata column holds no placeholder. -/
theorem not_mem_metadataColumn (compiler : Compiler) :
    '?' ∉ compiler.layout.metadataColumn.toList := by
  have h := ((Layout.check_eq_ok_iff _).mp compiler.checked).1.2
  simpa [Layout.hasPlaceholder] using h

/-- Nor does a dedicated column. -/
theorem not_mem_of_isSpecific (compiler : Compiler) {key : String}
    (hkey : compiler.layout.isSpecific key = true) : '?' ∉ key.toList := by
  have hmem : key ∈ compiler.layout.specificColumns := by
    simpa [Layout.isSpecific] using hkey
  have h := (((Layout.check_eq_ok_iff _).mp compiler.checked).2 key hmem).2
  simpa [Layout.hasPlaceholder] using h

/-- A key that is let through is quoted as a name, or it is a path into
the JSON column. Neither way brings in a question mark. -/
theorem selectorText_cases (compiler : Compiler) {key : String}
    (h : compiler.layout.keyDefects key = []) :
    '?' ∉ key.toList ∧
      (compiler.layout.selectorText key = Sql.quotedName key ∨
        compiler.layout.selectorText key
          = compiler.layout.backend.jsonValue compiler.layout.metadataColumn key) := by
  unfold Layout.selectorText
  cases hspecific : compiler.layout.isSpecific key with
  | true => exact ⟨compiler.not_mem_of_isSpecific hspecific, .inl rfl⟩
  | false =>
      -- A key without a column of its own gets through only as a path.
      have hpath : Layout.isPath key = true := by
        cases hpath : Layout.isPath key with
        | true => rfl
        | false => simp [Layout.keyDefects, hspecific, hpath] at h
      exact ⟨Layout.not_mem_of_isPath hpath (by decide) (by decide), .inr rfl⟩

/-- A compiler for columns whose names hold quotes, parentheses and
connectives. -/
def awkward : Compiler where
  layout :=
    { backend := .duckdb, metadataColumn := "m\" OR (", specificColumns := ["a') AND \"b"] }
  checked := rfl

/-- A filter for the columns of `awkward`: a disjunction that is the
only part of a conjunction, beside another condition. One leaf has an
`AND` of its own. -/
def awkwardFilter : Filter :=
  .all
    [.joined .and [.all [.joined .or
      [.all [.property "a') AND \"b"
        (.compare .between (.array [.string "x", .string "y"]))],
       .all [.property "body.text" (.compare .contains (.string "z"))]]]],
     .property "k" (.equals (.bool true))]

end Compiler

end FilterSql
