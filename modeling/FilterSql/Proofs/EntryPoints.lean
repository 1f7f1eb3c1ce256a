import FilterSql.Proofs.Names

/-!
# `FilterSql.Proofs.EntryPoints`: one filter, however it is handed in

A filter is handed in as a tree, as a JSON value or as a text, and a
text is read either as a filter that may be missing (`Filter.ofText`)
or as a document that is one (`Filter.ofDocument`). Each way has its own
notion of no filter at all, and the two readers of texts look at what
follows the value at different times. They agree wherever they overlap:
a text means what its JSON value means.

* `Json.read_eq_ok_iff`, `Filter.ofDocument_eq_ok_iff`: the order in
  which a document is checked does not matter for what is accepted.
* `Filter.ofText_of_read`: a text that is JSON, by its value.
* `Compiler.buildText_of_read`: the same for whole clauses, with
  their events.
-/

set_option autoImplicit false

namespace FilterSql

namespace Traced

variable {ε α β : Type}

@[simp] theorem ofExcept_ok_bind (a : α) (f : α → Traced ε β) :
    (ofExcept (.ok a) >>= f) = f a := rfl

@[simp] theorem ofExcept_error_bind (e : ε) (f : α → Traced ε β) :
    (ofExcept (.error e) >>= f) = fail e := rfl

end Traced

/-! ### Documents -/

section
variable {ε ε' α : Type} {f : ε → ε'}

@[simp] theorem except_mapError_ok (a : α) : (Except.ok a : Except ε α).mapError f = .ok a := rfl

@[simp] theorem except_mapError_error (e : ε) :
    (Except.error e : Except ε α).mapError f = .error (f e) := rfl

/-- Changing errors changes no success. -/
theorem except_mapError_eq_ok_iff {x : Except ε α} {a : α} : x.mapError f = .ok a ↔ x = .ok a := by
  cases x with
  | error e => simp
  | ok b => simp

end

/-- A text is a value if the value is followed by nothing but blanks. -/
theorem Json.read_eq_ok_iff (text : String) (v : Json) :
    Json.read text = .ok v ↔
      ∃ rest, Scan.value maxNesting text.toList = .ok (v, rest) ∧ Scan.ending rest = .ok () := by
  rw [Json.read, except_mapError_eq_ok_iff, except_bind_eq_ok_iff]
  constructor
  · rintro ⟨⟨w, rest⟩, hvalue, hrest⟩
    obtain ⟨⟨⟩, hending, hw⟩ := except_bind_eq_ok_iff.mp hrest
    cases hw
    exact ⟨rest, hvalue, hending⟩
  · rintro ⟨rest, hvalue, hending⟩
    exact ⟨(v, rest), hvalue, by simp [hending]⟩

namespace Filter

/-- A document is a filter if it is a value and the value is one. The
filter is looked at before the end of the document is, which makes a
difference for the fault that is reported and for nothing else. -/
theorem ofDocument_eq_ok_iff (text : String) (t : Filter) :
    ofDocument text = .ok t ↔ ∃ v, Json.read text = .ok v ∧ ofJson v = .ok t := by
  simp only [Json.read_eq_ok_iff]
  constructor
  · intro h
    simp only [ofDocument] at h
    split at h
    · cases h
    · rename_i v rest hvalue
      split at h
      · cases h
      · rename_i f hfilter
        split at h
        · cases h
        · rename_i hending
          cases h
          exact ⟨v, ⟨rest, hvalue, hending⟩, hfilter⟩
  · rintro ⟨v, ⟨rest, hvalue, hending⟩, hfilter⟩
    simp only [ofDocument, hvalue, hfilter, hending]

/-! ### Texts -/

/-- A text that is too long is refused unread. -/
theorem ofText_of_large {text : String} (h : maxBytes < text.utf8ByteSize) :
    ofText text = .error (.tooLarge maxBytes text.utf8ByteSize) := by
  rw [ofText, if_pos h]

/-- Blank text states no filter. -/
theorem ofText_of_blank {text : String} (hsize : text.utf8ByteSize ≤ maxBytes)
    (hblank : Text.allBlank text = true) : ofText text = .ok none := by
  rw [ofText, if_neg (Nat.not_lt.mpr hsize), if_pos hblank]

section
variable {text : String} (hsize : text.utf8ByteSize ≤ maxBytes)
  (hblank : Text.allBlank text = false)
include hsize hblank

/-- Any other text is read as JSON. -/
theorem ofText_eq_read :
    ofText text
      = match Json.read text with
        | .error defect => .error (.invalidJson defect)
        | .ok .null => .ok none
        | .ok v => ofJson v >>= fun t => .ok (if t.isEmpty then none else some t) := by
  rw [ofText, if_neg (Nat.not_lt.mpr hsize), hblank]
  rfl

/-- The document `null` holds no filter, which is no error. -/
theorem ofText_of_null (hread : Json.read text = .ok .null) : ofText text = .ok none := by
  rw [ofText_eq_read hsize hblank, hread]

/-- A value other than `null` states the filter that it is, if that
filter asks anything. -/
theorem ofText_of_read {v : Json} (hread : Json.read text = .ok v) (hv : v ≠ .null) :
    ofText text = ofJson v >>= fun t => .ok (if t.isEmpty then none else some t) := by
  rw [ofText_eq_read hsize hblank, hread]
  cases v with
  | null => exact absurd rfl hv
  | _ => rfl

/-- A text states a filter if, as a document, it is one that asks
something. -/
theorem ofText_eq_some_iff (t : Filter) :
    ofText text = .ok (some t) ↔ ofDocument text = .ok t ∧ t.isEmpty = false := by
  rw [ofDocument_eq_ok_iff]
  constructor
  · intro h
    cases hread : Json.read text with
    | error defect =>
        rw [ofText_eq_read hsize hblank, hread] at h
        cases h
    | ok v =>
        -- `null` states no filter, so there is a value to look at.
        have hv : v ≠ .null := by
          rintro rfl
          rw [ofText_of_null hsize hblank hread] at h
          cases h
        rw [ofText_of_read hsize hblank hread hv] at h
        obtain ⟨f, hfilter, hf⟩ := except_bind_eq_ok_iff.mp h
        cases hempty : f.isEmpty with
        | true =>
            rw [hempty] at hf
            cases hf
        | false =>
            rw [hempty] at hf
            cases hf
            exact ⟨⟨v, rfl, hfilter⟩, hempty⟩
  · rintro ⟨⟨v, hread, hfilter⟩, hempty⟩
    -- No filter is read from `null`.
    have hv : v ≠ .null := by
      rintro rfl
      cases hfilter
    rw [ofText_of_read hsize hblank hread hv, hfilter, except_ok_bind, hempty]
    rfl

/-- A text states no filter if its value is `null`, or a filter that
asks nothing. -/
theorem ofText_eq_none_iff {v : Json} (hread : Json.read text = .ok v) :
    ofText text = .ok none ↔ v = .null ∨ ∃ t, ofJson v = .ok t ∧ t.isEmpty = true := by
  by_cases hv : v = .null
  · subst hv
    simp [ofText_of_null hsize hblank hread]
  · rw [ofText_of_read hsize hblank hread hv, except_bind_eq_ok_iff]
    constructor
    · rintro ⟨t, hfilter, ht⟩
      cases hempty : t.isEmpty with
      | true => exact .inr ⟨t, hfilter, hempty⟩
      | false =>
          rw [hempty] at ht
          cases ht
    · rintro (hnull | ⟨t, hfilter, hempty⟩)
      · exact absurd hnull hv
      · exact ⟨t, hfilter, by rw [hempty]; rfl⟩

end

end Filter

/-! ### Clauses -/

namespace Compiler

variable (compiler : Compiler)

/-- A filter that asks nothing is built like one that is missing. -/
theorem build_of_isEmpty {t : Filter} (h : t.isEmpty = true) :
    compiler.build (some t) = compiler.build none := by
  simp only [build, h, if_true]

/-- A value other than `null` is read, and what is read is built. -/
theorem buildJson_of_ne_null {v : Json} (hv : v ≠ .null) :
    compiler.buildJson (some v) = .ofExcept (Filter.ofJson v) >>= fun t => compiler.build (some t) := by
  cases v with
  | null => exact absurd rfl hv
  | _ => rfl

/-- A text that is JSON is built as its value is, event by event. -/
theorem buildText_of_read {text : String} {v : Json}
    (hsize : text.utf8ByteSize ≤ Filter.maxBytes) (hblank : Text.allBlank text = false)
    (hread : Json.read text = .ok v) :
    compiler.buildText text = compiler.buildJson (some v) := by
  by_cases hv : v = .null
  · subst hv
    rw [buildText, Filter.ofText_of_null hsize hblank hread]
    rfl
  · rw [buildText, Filter.ofText_of_read hsize hblank hread hv, compiler.buildJson_of_ne_null hv]
    cases Filter.ofJson v with
    | error e => rfl
    | ok t =>
        rw [except_ok_bind, Traced.ofExcept_ok_bind, Traced.ofExcept_ok_bind]
        cases hempty : t.isEmpty with
        | true => exact (compiler.build_of_isEmpty hempty).symm
        | false => rfl

/-- What a clause that is built from a text goes back to. -/
theorem cases_of_buildText {text : String} {clause : WhereClause}
    (h : (compiler.buildText text).outcome = .ok clause) :
    (Text.allBlank text = true ∧ clause = .empty) ∨
      ∃ v, Json.read text = .ok v ∧
        (v = .null ∧ clause = .empty ∨
          ∃ t, Filter.ofJson v = .ok t ∧ (compiler.build (some t)).outcome = .ok clause) := by
  by_cases hsize : text.utf8ByteSize ≤ Filter.maxBytes
  · cases hblank : Text.allBlank text with
    | true =>
        rw [buildText, Filter.ofText_of_blank hsize hblank] at h
        cases h
        exact .inl ⟨rfl, rfl⟩
    | false =>
        cases hread : Json.read text with
        | error defect =>
            rw [buildText, Filter.ofText_eq_read hsize hblank, hread] at h
            cases h
        | ok v =>
            refine .inr ⟨v, rfl, ?_⟩
            rw [compiler.buildText_of_read hsize hblank hread] at h
            by_cases hv : v = .null
            · subst hv
              cases h
              exact .inl ⟨rfl, rfl⟩
            · rw [compiler.buildJson_of_ne_null hv, Traced.outcome_bind,
                except_bind_eq_ok_iff] at h
              exact .inr h
  · rw [buildText, Filter.ofText_of_large (Nat.lt_of_not_le hsize)] at h
    cases h

/-- However a filter is handed in, the clause is the same, and so is the
error. A text that is too long is refused whatever it holds. Blank text
is no filter. Any other text that is JSON is built as its value is,
which is no filter if it is `null` and otherwise the filter that is read
from it, if one is. A text states a filter exactly if it is a document
that is one and asks something; it states none exactly if its value is
`null` or asks nothing. -/
theorem entry_points_agree (text : String) :
    (65536 < text.utf8ByteSize →
      compiler.buildText text = .fail (.tooLarge 65536 text.utf8ByteSize)) ∧
    (text.utf8ByteSize ≤ 65536 → Text.allBlank text = true →
      compiler.buildText text = compiler.buildJson none) ∧
    (text.utf8ByteSize ≤ 65536 → Text.allBlank text = false →
      ∀ v, Json.read text = .ok v →
        compiler.buildText text = compiler.buildJson (some v) ∧
        (v = .null → compiler.buildJson (some v) = pure .empty) ∧
        (v ≠ .null →
          (∀ t, Filter.ofJson v = .ok t →
            compiler.buildJson (some v) = compiler.build (some t)) ∧
          ∀ e, Filter.ofJson v = .error e → compiler.buildJson (some v) = .fail e) ∧
        (∀ t, Filter.ofText text = .ok (some t) ↔
          Filter.ofDocument text = .ok t ∧ t.isEmpty = false) ∧
        (Filter.ofText text = .ok none ↔
          v = .null ∨ ∃ t, Filter.ofJson v = .ok t ∧ t.isEmpty = true)) := by
  refine ⟨?_, ?_, ?_⟩
  · intro hlarge
    rw [buildText, Filter.ofText_of_large hlarge]
    rfl
  · intro hsize hblank
    rw [buildText, Filter.ofText_of_blank hsize hblank]
    rfl
  · intro hsize hblank v hread
    refine ⟨compiler.buildText_of_read hsize hblank hread, ?_, ?_,
      Filter.ofText_eq_some_iff hsize hblank, Filter.ofText_eq_none_iff hsize hblank hread⟩
    · rintro rfl
      rfl
    · intro hv
      rw [compiler.buildJson_of_ne_null hv]
      refine ⟨fun t ht => ?_, fun e he => ?_⟩
      · rw [ht, Traced.ofExcept_ok_bind]
      · rw [he, Traced.ofExcept_error_bind]

/-- A text of blanks. -/
def blanks : Nat → String
  | 0 => ""
  | n + 1 => (blanks n).push ' '

/-- A blank is one byte long. -/
theorem utf8ByteSize_blanks (n : Nat) : (blanks n).utf8ByteSize = n := by
  induction n with
  | zero => rfl
  | succ n ih =>
      rw [blanks, String.utf8ByteSize_push, ih]
      rfl

/-- A text with blanks around its value, a blank text, a text that
states a filter which asks nothing, and one that is blank and too
long. -/
theorem entry_points_agree_around_blanks :
    (∃ v t clause, Json.read " \x7b\"k\": \x7b\"$lt\": \"3\"\x7d\x7d\n" = .ok v ∧
      awkward.buildText " \x7b\"k\": \x7b\"$lt\": \"3\"\x7d\x7d\n" = awkward.buildJson (some v) ∧
      (awkward.buildJson (some v)).outcome = .ok clause ∧
      Filter.ofText " \x7b\"k\": \x7b\"$lt\": \"3\"\x7d\x7d\n" = .ok (some t)) ∧
    awkward.buildText "\t\u2003" = awkward.buildJson none ∧
    Filter.ofText "\x7b\x7d" = .ok none ∧
    awkward.buildText (blanks 65537) = .fail (.tooLarge 65536 65537) := by
  refine ⟨?_, ?_, ?_, ?_⟩
  · have hread : Json.read " \x7b\"k\": \x7b\"$lt\": \"3\"\x7d\x7d\n"
        = .ok (.object [("k", .object [("$lt", .string "3")])]) :=
      (Json.read_eq_ok_iff _ _).mpr ⟨['\n'], by cbv, rfl⟩
    have hagree := (awkward.entry_points_agree " \x7b\"k\": \x7b\"$lt\": \"3\"\x7d\x7d\n").2.2
      (by decide) (by decide) _ hread
    have hdocument := (Filter.ofDocument_eq_ok_iff _ _).mpr ⟨_, hread, rfl⟩
    exact ⟨_, _, _, hread, hagree.1, rfl, (hagree.2.2.2.1 _).mpr ⟨hdocument, rfl⟩⟩
  · exact (awkward.entry_points_agree "\t\u2003").2.1 (by decide) (by decide)
  · have hread : Json.read "\x7b\x7d" = .ok (.object []) :=
      (Json.read_eq_ok_iff _ _).mpr ⟨[], by cbv, rfl⟩
    have hagree := (awkward.entry_points_agree "\x7b\x7d").2.2 (by decide) (by decide) _ hread
    exact hagree.2.2.2.2.mpr (.inr ⟨_, rfl, rfl⟩)
  · have hlarge := (awkward.entry_points_agree (blanks 65537)).1
    rw [utf8ByteSize_blanks] at hlarge
    exact hlarge (by decide)

end Compiler

end FilterSql
