import FilterSql.Proofs.Json.Accepted
import FilterSql.Proofs.SettingsDocument

/-!
# `FilterSql.Proofs.SettingsAccepted`: settings files are JSON

Settings are read without a document in between, each entry by a scan of
its own, and what is unknown is passed over. Still nothing is let through
that is not JSON: every scan takes one value of the grammar off the text
(`Json.Scan.Accepts`), and so a file that is read is one document
(`Settings.Contents.exists_isDocument`).
-/

set_option autoImplicit false

namespace FilterSql

open Json (Scan)
open Json.Grammar
open Sql (Backend)

/-! ### Backends -/

namespace Sql.Backend

/-- The value in the long form of a backend. -/
theorem front_of_noPayload {cs rest : List Char} (h : noPayload cs = .ok rest) :
    Scan.Front .value (Scan.skipSpaces cs) rest := by
  unfold noPayload at h
  split at h
  · next hcs =>
      rw [hcs]
      exact .word (.head _) h
  · cases h

/-- The end of the long form of a backend. -/
theorem skipSpaces_of_payloadEnd {cs rest : List Char} (h : payloadEnd cs = .ok rest) :
    Scan.skipSpaces cs = '\x7d' :: rest := by
  unfold payloadEnd at h
  split at h
  · next hcs =>
      cases h
      exact hcs
  · cases h
  · cases h

/-- Backends in either form. -/
theorem accepts_scan : scan.Accepts := by
  intro cs backend rest h
  unfold scan at h
  split at h
  · cases h
  · next hcs =>
      obtain ⟨⟨name, _⟩, hstring, h⟩ := except_bind_eq_ok_iff.mp h
      obtain ⟨_, -, hend⟩ := except_bind_eq_ok_iff.mp h
      cases hend
      rw [hcs]
      exact .string (Scan.passString_of_string hstring)
  · next behind hcs =>
      split at h
      · next hquote =>
          obtain ⟨⟨name, mid⟩, hstring, h⟩ := except_bind_eq_ok_iff.mp h
          obtain ⟨_, -, h⟩ := except_bind_eq_ok_iff.mp h
          obtain ⟨value, hcolon, h⟩ := except_bind_eq_ok_iff.mp h
          obtain ⟨after, hpayload, h⟩ := except_bind_eq_ok_iff.mp h
          obtain ⟨_, hclose, hend⟩ := except_bind_eq_ok_iff.mp h
          cases hend
          obtain ⟨key, signs, hkey, rfl⟩ :=
            Scan.characters_of_passString (Scan.passString_of_string hstring)
          obtain ⟨sep, hsep, hbehind⟩ := Scan.separator_start behind
          rw [hquote] at hbehind
          rw [hcs]
          have hvalue : Scan.EntryFront mid after := .of_colon hcolon (front_of_noPayload hpayload)
          exact .object (.entry hsep hkey hbehind hvalue
            (.entriesEnd (skipSpaces_of_payloadEnd hclose)))
      · cases h
      · cases h
      · cases h
  · cases h

end Sql.Backend

namespace Settings

/-! ### Sections -/

namespace Section

/-- The value of an entry, which may be `null` in a settings file. -/
theorem accepts_slot {α : Type} {item : Scan α} (hitem : item.Accepts) (form : Form) :
    (slot form item).Accepts := by
  cases form with
  | inFile => exact hitem.optional
  | alone =>
      intro cs x rest h
      obtain ⟨⟨a, _⟩, ha, hend⟩ := except_bind_eq_ok_iff.mp h
      cases hend
      exact hitem ha

/-- A known entry from its colon on. -/
theorem value_of_entry {α : Type} {item : Scan α} (hitem : item.Accepts) {form : Form}
    {key : String} {seen : Option (Option α)} {x : Option α} {cs rest : List Char}
    (h : entry form key seen item cs = .ok (x, rest)) : Scan.EntryFront cs rest := by
  unfold entry at h
  split_ifs at h
  obtain ⟨value, hcolon, hvalue⟩ := except_bind_eq_ok_iff.mp h
  exact .of_colon hcolon (accepts_slot hitem form hvalue)

/-- Any entry from its colon on. -/
theorem value_of_member {form : Form} {s s' : Section} {key : String} {cs rest : List Char}
    (h : member form s key cs = .ok (s', rest)) : Scan.EntryFront cs rest := by
  unfold member at h
  split_ifs at h
  · obtain ⟨⟨x, _⟩, hentry, hend⟩ := except_bind_eq_ok_iff.mp h
    cases hend
    exact value_of_entry Backend.accepts_scan hentry
  · obtain ⟨⟨x, _⟩, hentry, hend⟩ := except_bind_eq_ok_iff.mp h
    cases hend
    exact value_of_entry Scan.accepts_text hentry
  · obtain ⟨⟨x, _⟩, hentry, hend⟩ := except_bind_eq_ok_iff.mp h
    cases hend
    exact value_of_entry Scan.accepts_texts hentry
  · obtain ⟨value, hcolon, h⟩ := except_bind_eq_ok_iff.mp h
    obtain ⟨⟨_, _⟩, hpass, hend⟩ := except_bind_eq_ok_iff.mp h
    cases hend
    exact .of_colon hcolon (Scan.accepts_pass hpass)

/-- One item of the array form, given the items behind it. -/
theorem items_of_nextSlot {α : Type} {item : Scan α} (hitem : item.Accepts)
    {next : Option α × List Char → Except Json.Failure (Section × List Char)} {s s' : Section}
    (hnext : ∀ {x cs rest}, next (x, cs) = .ok (s', rest) → Scan.Front (.items false) cs rest)
    {first : Bool} {count : Nat} {cs rest : List Char}
    (h : (Scan.nextItem first cs >>= fun (more, cs) =>
      if !more then cutShort .inFile count s cs else slot .inFile item cs >>= next) =
        .ok (s', rest)) :
    Scan.Front (.items first) cs rest := by
  obtain ⟨⟨more, mid⟩, hmark, h⟩ := except_bind_eq_ok_iff.mp h
  cases more with
  | false => cases h
  | true =>
      obtain ⟨⟨x, after⟩, hx, hrest⟩ := except_bind_eq_ok_iff.mp h
      obtain ⟨sep, hsep, hcs⟩ := Scan.separator_of_nextItem hmark
      exact .item hsep hcs (accepts_slot hitem .inFile hx) (hnext hrest)

/-- The end of the array form. -/
theorem skipSpaces_of_arrayEnd {s s' : Section} {cs rest : List Char}
    (h : arrayEnd s cs = .ok (s', rest)) : Scan.skipSpaces cs = ']' :: rest := by
  unfold arrayEnd at h
  split at h
  · cases h
  · next hcs =>
      cases h
      exact hcs
  · split at h <;> cases h
  · cases h

/-- The items of the array form after its opening bracket. -/
theorem items_of_array {s : Section} {cs rest : List Char} (h : array .inFile cs = .ok (s, rest)) :
    Scan.Front (.items true) cs rest := by
  refine items_of_nextSlot Backend.accepts_scan (fun h => ?_) h
  refine items_of_nextSlot Scan.accepts_text (fun h => ?_) h
  refine items_of_nextSlot Scan.accepts_texts (fun h => ?_) h
  exact .itemsEnd (skipSpaces_of_arrayEnd h)

/-- Sections in a settings file. -/
theorem accepts_scan : (scan .inFile).Accepts := by
  intro cs s rest h
  unfold scan at h
  split at h
  · next hcs =>
      rw [hcs]
      exact .array (items_of_array h)
  · next hcs =>
      rw [hcs]
      exact .object (Scan.entries_of_entriesFrom value_of_member h)
  · cases h

end Section

/-! ### Settings files -/

namespace Contents

/-- An entry of a settings file from its colon on. -/
theorem value_of_member {contents contents' : Contents} {key : String} {cs rest : List Char}
    (h : member contents key cs = .ok (contents', rest)) : Scan.EntryFront cs rest := by
  unfold member at h
  split_ifs at h
  · obtain ⟨value, hcolon, h⟩ := except_bind_eq_ok_iff.mp h
    obtain ⟨⟨_, _⟩, hvalue, hend⟩ := except_bind_eq_ok_iff.mp h
    cases hend
    exact .of_colon hcolon (Section.accepts_scan.optional hvalue)
  · obtain ⟨value, hcolon, h⟩ := except_bind_eq_ok_iff.mp h
    obtain ⟨⟨_, _⟩, hvalue, hend⟩ := except_bind_eq_ok_iff.mp h
    cases hend
    exact .of_colon hcolon (Scan.accepts_valueOf _ _ hvalue)

/-- Settings files are objects. -/
theorem accepts_scan : scan.Accepts := by
  intro cs contents rest h
  unfold scan at h
  split at h
  · next hcs =>
      rw [hcs]
      exact .object (Scan.entries_of_entriesFrom value_of_member h)
  · cases h

/-- A settings file that is read is a JSON text. -/
theorem exists_isDocument {text : String} {contents : Contents} (h : read text = .ok contents) :
    ∃ tree, IsDocument tree text := by
  rw [read, except_mapError_eq_ok_iff, except_bind_eq_ok_iff] at h
  obtain ⟨⟨found, rest⟩, hscan, hend⟩ := h
  obtain ⟨⟨⟩, hending, -⟩ := except_bind_eq_ok_iff.mp hend
  obtain ⟨tree, v, hv, hskip⟩ := accepts_scan hscan
  obtain ⟨bs, hbs, htext⟩ := Scan.exists_blanks text.toList
  obtain ⟨bs', hbs', hrest⟩ := Scan.exists_blanks rest
  rw [Scan.ending_eq_ok_iff.mp hending, List.append_nil] at hrest
  exact ⟨tree, .mk hbs hv (hrest ▸ hbs') (by rw [htext, hskip])⟩

end Contents

end Settings

end FilterSql
