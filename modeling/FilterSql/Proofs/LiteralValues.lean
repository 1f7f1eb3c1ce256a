import FilterSql.Proofs.WholeNumbers

/-!
# `FilterSql.Proofs.LiteralValues`: what a bound literal says about its value

A literal is bound as text with a type. Not every value has one, and
different values may share one: numbers are held in two forms, and a
date may be given as any JSON value. `Literal.Alike` says which values
are alike, from the values alone.

* `Literal.text_eq_iff_alike`: alike are the values with one type and one
  text, and no others.
* `Literal.encoding_is_faithful`: which values can be bound, and what is
  bound for them.
-/

set_option autoImplicit false

namespace FilterSql

open Sql (Backend placeholders)

/-! ### Texts are not empty -/

namespace Json

/-- A double has a digit at least. -/
theorem magnitude_ne_nil (x : Binary64) : magnitude x ≠ [] := by
  unfold magnitude
  dsimp only
  split
  · split
    · simp
    · simp
  · simp

/-- The text of a number is not empty. -/
theorem Number.text_ne_empty (n : Number) : n.text ≠ "" := by
  cases n with
  | integer i =>
      rw [text, toString_int]
      exact signedText_ne_empty _ _
  | double x =>
      intro h
      have hlist := congrArg String.toList h
      rw [text, String.toList_ofList] at hlist
      exact magnitude_ne_nil x (List.append_eq_nil_iff.mp hlist).2

/-- No value is written without a character. -/
theorem compact_ne_empty (v : Json) : v.compact ≠ "" := by
  cases v with
  | null => simp [compact]
  | bool b => cases b <;> simp [compact]
  | number n =>
      rw [compact]
      exact n.text_ne_empty
  | string s =>
      rw [compact, quoted]
      simp
  | array items => cases items <;> simp [compact]
  | object fields => cases fields <;> simp [compact]

/-- A value as the text of a date: a text stands for itself. -/
def content : Json → String
  | .string s => s
  | v => v.compact

/-- Only the empty string has an empty content. -/
theorem content_ne_empty {v : Json} (h : v ≠ .string "") : v.content ≠ "" := by
  cases v with
  | string s =>
      intro hs
      exact h (congrArg Json.string hs)
  | _ => exact compact_ne_empty _

end Json

namespace Literal

open Json (Fields)

/-- The text of a tagged date is the content of its entry. -/
theorem dateText_eq {fields : Fields} {v : Json} (h : fields.get? "date" = some v) :
    dateText fields = v.content := by
  rw [dateText, h]
  cases v <;> rfl

/-- What is bound for a value is not empty. -/
theorem text_ne_empty {v : Json} (h : Encodable v) : text v ≠ "" := by
  cases h with
  | bool b => cases b <;> simp [text]
  | number n hwhole =>
      obtain ⟨t, ht⟩ := Option.isSome_iff_exists.mp hwhole
      obtain ⟨m, -, -, rfl⟩ := Json.Number.integerText?_eq_some_iff.mp ht
      rw [text, ht]
      exact Json.signedText_ne_empty _ _
  | string s hs => exact hs
  | date fields v htag hv hnull hempty =>
      rw [text, dateText_eq hv]
      exact Json.content_ne_empty hempty

/-- The values that can be bound, in terms of the values. -/
theorem encodable_iff (v : Json) :
    Encodable v ↔
      (∃ b, v = .bool b) ∨ (∃ s, v = .string s ∧ s ≠ "") ∨
      (∃ n, v = .number n ∧ n.HasIntegerForm) ∨
      ∃ fields date, v = .object fields ∧ Fields.get? fields "type" = some (.string "date") ∧
        Fields.get? fields "date" = some date ∧ date ≠ .null ∧ date ≠ .string "" := by
  constructor
  · intro h
    cases h with
    | bool b => exact .inl ⟨b, rfl⟩
    | string s hs => exact .inr (.inl ⟨s, rfl, hs⟩)
    | number n hwhole =>
        exact .inr (.inr (.inl ⟨n, rfl, n.isSome_integerText?_iff.mp hwhole⟩))
    | date fields date htag hdate hnull hempty =>
        have htype := (Fields.isTaggedDate_iff fields).mp htag
        exact .inr (.inr (.inr ⟨fields, date, rfl, htype, hdate, hnull, hempty⟩))
  · intro h
    rcases h with ⟨b, rfl⟩ | ⟨s, rfl, hs⟩ | ⟨n, rfl, hn⟩ |
      ⟨fields, date, rfl, htype, hdate, hnull, hempty⟩
    · exact .bool b
    · exact .string s hs
    · exact .number n (n.isSome_integerText?_iff.mpr hn)
    · exact .date fields date ((Fields.isTaggedDate_iff fields).mpr htype) hdate hnull hempty

/-! ### Values that are alike -/

/-- Two values that are alike as literals. Numbers are alike if their
values are, zero being two numbers. Of a date nothing counts but its
text. -/
inductive Alike : Json → Json → Prop where
  | bool (b : Bool) : Alike (.bool b) (.bool b)
  | string (s : String) : Alike (.string s) (.string s)
  | number (n k : Json.Number) (value : n.value = k.value)
    (zero : n.value = 0 → n.negative = k.negative) : Alike (.number n) (.number k)
  | date (fields others : Fields) (v w : Json) (left : fields.get? "date" = some v)
    (right : others.get? "date" = some w) (content : v.content = w.content) :
    Alike (.object fields) (.object others)

variable {v w : Json}

/-- The text of a number that can be bound. -/
theorem integerText?_eq_text {n : Json.Number} (h : n.integerText?.isSome = true) :
    n.integerText? = some (text (.number n)) := by
  obtain ⟨t, ht⟩ := Option.isSome_iff_exists.mp h
  rw [text, ht, Option.getD_some]

/-- Values that are bound by the same text and type are alike. Both are
looked at by their kinds, and the type leaves only equal kinds to
compare. -/
theorem alike_of_text_eq (hv : Encodable v) (hw : Encodable w) (hcast : castOf v = castOf w)
    (htext : text v = text w) : Alike v w := by
  cases hv with
  | bool b =>
      cases hw with
      | bool c =>
          -- the type is given by the kind of value, so only equal kinds are left
          obtain rfl : b = c := by
            revert htext
            cases b <;> cases c <;> simp [text]
          exact .bool b
      | _ => cases hcast
  | number n hn =>
      cases hw with
      | number k hk =>
          obtain ⟨hvalue, hzero⟩ := (Json.Number.text_eq_iff (integerText?_eq_text hn)
            (integerText?_eq_text hk)).mp htext
          exact .number n k hvalue hzero
      | _ => cases hcast
  | string s hs =>
      cases hw with
      | string t ht =>
          obtain rfl : s = t := htext
          exact .string s
      | _ => cases hcast
  | date fields v htag hv =>
      cases hw with
      | date others w htag' hw =>
          refine .date fields others v w hv hw ?_
          rw [← dateText_eq hv, ← dateText_eq hw]
          exact htext
      | _ => cases hcast

/-- Values that are alike are bound by the same text and type. -/
theorem text_eq_of_alike (hv : Encodable v) (hw : Encodable w) (h : Alike v w) :
    castOf v = castOf w ∧ text v = text w := by
  cases h with
  | bool b => exact ⟨rfl, rfl⟩
  | string s => exact ⟨rfl, rfl⟩
  | number n k hvalue hzero =>
      cases hv with
      | number n hn =>
          -- equal values are not enough: one form may have no text
          cases hw with
          | number k hk =>
              exact ⟨rfl, (Json.Number.text_eq_iff (integerText?_eq_text hn)
                (integerText?_eq_text hk)).mpr ⟨hvalue, hzero⟩⟩
  | date fields others v w hleft hright hcontent =>
      refine ⟨rfl, ?_⟩
      rw [text, text, dateText_eq hleft, dateText_eq hright, hcontent]

/-- Values that can be bound are alike if they are bound alike. -/
theorem text_eq_iff_alike (hv : Encodable v) (hw : Encodable w) :
    castOf v = castOf w ∧ text v = text w ↔ Alike v w := by
  constructor
  · rintro ⟨hcast, htext⟩
    exact alike_of_text_eq hv hw hcast htext
  · exact text_eq_of_alike hv hw

/-- What comes out for a value that can be bound. -/
theorem encode_eq_ok_iff {backend : Backend} {l : Literal} :
    (encode backend v).outcome = .ok l ↔ Encodable v ∧ l = ofJson backend v := by
  rw [encode_outcome, report_eq_ok_iff, defects_eq_nil_iff, eq_comm]

/-- Literals are faithful. A value can be bound if it is a truth value,
a text that is not empty, a number with an integer form, or an object
that says it is a date and has one. What is bound is not empty, there is
one placeholder for it, and two values are bound alike exactly if they
are the same truth value, the same text, the same number, or dates with
the same text. -/
theorem encoding_is_faithful (backend : Backend) (v : Json) :
    ((∃ l, (encode backend v).outcome = .ok l) ↔
      (∃ b, v = .bool b) ∨ (∃ s, v = .string s ∧ s ≠ "") ∨
      (∃ n, v = .number n ∧ n.HasIntegerForm) ∨
      ∃ fields date, v = .object fields ∧ Fields.get? fields "type" = some (.string "date") ∧
        Fields.get? fields "date" = some date ∧ date ≠ .null ∧ date ≠ .string "") ∧
    ∀ l, (encode backend v).outcome = .ok l →
      placeholders l.placeholder = 1 ∧ l.param ≠ "" ∧
      ∀ w m, (encode backend w).outcome = .ok m →
        ((l.cast, l.param) = (m.cast, m.param) ↔ Alike v w) := by
  constructor
  · rw [← encodable_iff]
    constructor
    · rintro ⟨l, hl⟩
      exact (encode_eq_ok_iff.mp hl).1
    · intro h
      exact ⟨ofJson backend v, encode_eq_ok_iff.mpr ⟨h, rfl⟩⟩
  · intro l hl
    obtain ⟨hv, rfl⟩ := encode_eq_ok_iff.mp hl
    refine ⟨placeholders_placeholderFor backend _, text_ne_empty hv, ?_⟩
    intro w m hm
    obtain ⟨hw, rfl⟩ := encode_eq_ok_iff.mp hm
    rw [Prod.mk.injEq]
    exact text_eq_iff_alike hv hw

/-- A date given as a number. -/
def numericDate : Json :=
  .object [("type", .string "date"), ("date", .number (.integer 5))]

/-- The same date given as a text, with another entry. -/
def textualDate : Json :=
  .object [("date", .string "5"), ("zone", .null), ("type", .string "date")]

/-- The largest double with an integer form. -/
def largestWhole : Binary64 where
  negative := false
  significand := 4503599627370496
  scale := 1075
  significand_lt := by decide
  scale_le := by decide
  normal := .inr (by decide)

/-- A whole number is the same in both forms, up to the last double that
has one. Negative zero is a number of its own. A date may be given as a
number or as its text. -/
theorem encoding_is_faithful_mixed :
    (encode .duckdb (.number (.double largestWhole))).outcome
        = .ok (typed .duckdb .double "9007199254740992") ∧
      Alike (.number (.integer 9007199254740992)) (.number (.double largestWhole)) ∧
      ¬ Alike (.number (.integer 0)) (.number (.double (.zero true))) ∧
      Alike numericDate textualDate := by
  refine ⟨rfl, ?_, ?_, ?_⟩
  · exact (((encoding_is_faithful .duckdb _).2 _ rfl).2.2 _ _ rfl).mp rfl
  · intro h
    have heq := (((encoding_is_faithful .duckdb _).2 _ rfl).2.2 _ _ rfl).mpr h
    exact absurd heq (by decide)
  · exact (((encoding_is_faithful .hana _).2 _ rfl).2.2 _ _ rfl).mp rfl

end Literal

end FilterSql
