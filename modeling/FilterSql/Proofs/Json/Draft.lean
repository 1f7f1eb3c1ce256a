import FilterSql.Proofs.EntryPoints
import FilterSql.Proofs.Json.Numeral
import FilterSql.Proofs.Json.Tracks

/-!
# `FilterSql.Proofs.Json.Draft`: documents with their numerals

A JSON value holds numbers. What was written for them is gone: `3.0`,
`30e-1` and a few more digits may all be the same double. A `Draft` is a
document that keeps its numerals as they are written and is otherwise
the same, down to the place of a repeated key.

Every text that is read as a value has a draft (`Draft.reads_of_read`),
and the two differ in nothing but the numerals (`Draft.Reads`).
-/

set_option autoImplicit false

namespace FilterSql.Json

/-- A JSON document with its numerals as they are written. -/
inductive Draft where
  | null
  | bool (b : Bool)
  | numeral (n : Numeral)
  | string (s : String)
  | array (items : List Draft)
  | object (entries : List (String × Draft))

namespace Draft

/-- A draft and its value. -/
inductive Reads : Draft → Json → Prop where
  | null : Reads .null .null
  | bool (b : Bool) : Reads (.bool b) (.bool b)
  | numeral {n : Numeral} {x : Number} (hn : n.IsDecimal) (hx : n.number? = some x) :
    Reads (.numeral n) (.number x)
  | string (s : String) : Reads (.string s) (.string s)
  | array {items : List Draft} {vs : List Json} (h : List.Forall₂ Reads items vs) :
    Reads (.array items) (.array vs)
  | object {entries : List (String × Draft)} {fields : Fields}
    (h : List.Forall₂ (Keyed Reads) entries fields) : Reads (.object entries) (.object fields)

/-- Documents as drafts. No numeral is out of range. -/
def builder : Builder Draft where
  null := .null
  bool := .bool
  number? n := some (.numeral n)
  string := .string
  array := .array
  object := .object

end Draft

namespace Scan

/-! ### Drafts beside values -/

/-- What is read before the point are digits. -/
theorem wholeDigits_isDigit {cs whole rest : List Char} (h : wholeDigits cs = .ok (whole, rest)) :
    ∀ c ∈ whole, c.isDigit = true := by
  cases cs with
  | nil => cases h
  | cons c cs =>
      rw [wholeDigits] at h
      -- A zero stands alone; any other digit may be followed by a run of them.
      split at h
      · next hzero =>
          split at h
          · cases h
          · cases h
            simp [hzero]
      · split at h
        · next hdigit =>
            cases h
            exact List.forall_mem_cons.mpr ⟨hdigit, fun d hd => List.mem_takeWhile_imp hd⟩
        · cases h

/-- And so is what is read behind it. -/
theorem fractionDigits_isDigit {cs fraction rest : List Char}
    (h : fractionDigits cs = .ok (fraction, rest)) : ∀ c ∈ fraction, c.isDigit = true := by
  unfold fractionDigits at h
  split at h
  · cases h
  · split at h
    · next hdigit =>
        cases h
        exact List.forall_mem_cons.mpr ⟨hdigit, fun d hd => List.mem_takeWhile_imp hd⟩
    · cases h
  · cases h
    exact List.forall_mem_nil _

/-- A numeral that is read is decimal. -/
theorem isDecimal_of_numeral {cs rest : List Char} {n : Numeral}
    (h : numeral cs = .ok (n, rest)) : n.IsDecimal := by
  obtain ⟨⟨whole, afterWhole⟩, hwhole, h⟩ := except_bind_eq_ok_iff.mp h
  obtain ⟨⟨fraction, afterFraction⟩, hfraction, h⟩ := except_bind_eq_ok_iff.mp h
  obtain ⟨⟨exponent, afterExponent⟩, hexponent, h⟩ := except_bind_eq_ok_iff.mp h
  cases h
  exact ⟨wholeDigits_isDigit hwhole, fractionDigits_isDigit hfraction⟩

/-- The values are those of the drafts. -/
theorem relates_draft : Builder.values.Relates (fun v (d : Draft) => d.Reads v) Draft.builder where
  null := .null
  bool b := .bool b
  number hscan hv := by
    obtain ⟨x, hx, rfl⟩ := Option.map_eq_some_iff.mp hv
    exact ⟨.numeral _, rfl, .numeral (isDecimal_of_numeral hscan) hx⟩
  string s := .string s
  array h := .array h.flip
  object h := .object (h.flip.imp fun _ _ ⟨key, hd⟩ => ⟨key, hd⟩)

end Scan

namespace Draft

/-- A whole text as a draft. -/
def read (text : String) : Except Failure Draft := do
  let (d, rest) ← Scan.valueOf builder maxNesting text.toList
  Scan.ending rest
  .ok d

/-- Every text that is read as a value has a draft, and the value is that
of the draft. -/
theorem reads_of_read {text : String} {v : Json} (h : Json.read text = .ok v) :
    ∃ d, read text = .ok d ∧ d.Reads v := by
  obtain ⟨rest, hvalue, hending⟩ := (Json.read_eq_ok_iff text v).mp h
  have htracks := Scan.tracks_valueOf Scan.relates_draft maxNesting text.toList
  rw [← Scan.value, hvalue] at htracks
  obtain ⟨⟨d, _⟩, hdraft, hd, rfl⟩ := htracks.exists_of_ok
  refine ⟨d, ?_, hd⟩
  simp only [read, hdraft, except_ok_bind, hending]

end Draft

end FilterSql.Json
