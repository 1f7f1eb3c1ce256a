import FilterSql.Proofs.Json.Spelled
import FilterSql.Proofs.SettingsDocument

/-!
# `FilterSql.Proofs.SettingsText`: settings as they are spelled

What is read of a section, and of a settings file, from what its text is
made of. Here the text is taken apart by the grammar and not by a reader
for values, so that also values count which only the grammar knows:
numbers without a bound, halves of surrogate pairs and brackets nested to
any depth, wherever they are ignored.

Sections are read exactly as they are written (`Section.typed_scan`). Of
an object this is proved entry by entry: `Section.Takes` says what one
entry changes, `Section.Extends` what all of them do, with an arbitrary
section to start from.

* `Section.yields_object`: the object form, in either place.
* `Section.typed_scan`: a section in a settings file.
* `Contents.saidIn_of_isDocument`: a settings file says what its document
  says.
-/

set_option autoImplicit false

namespace FilterSql

open Json (Scan Tree)
open Json.Grammar
open Json.Scan (Yields Typed Folds)
open Json.Tree (valuesOf)
open Sql (Backend)

/-! ### Backends -/

namespace Sql.Backend

/-- A backend is found by its name. -/
theorem ofName?_eq_some_iff {name : String} {backend : Backend} :
    ofName? name = some backend ↔ name = backend.name := by
  refine ⟨eq_name_of_ofName?, ?_⟩
  rintro rfl
  cases backend <;> rfl

/-- The short form is the name. -/
theorem writtenAs_string_iff {backend : Backend} {s : Option String} :
    WrittenAs backend (.string s) ↔ s = some backend.name := by
  constructor
  · rintro ⟨⟩
    rfl
  · rintro rfl
    exact .name backend

/-- The long form has the name as its only key. -/
theorem writtenAs_object_iff {backend : Backend} {es : Tree.Entries} :
    WrittenAs backend (.object es) ↔ es = [(some backend.name, .null)] := by
  constructor
  · rintro ⟨⟩
    rfl
  · rintro rfl
    exact .key backend

/-- A step that only moves on, as a scan. -/
def moving (step : List Char → Except Json.Failure (List Char)) : Scan Unit := fun cs => do
  let rest ← step cs
  .ok ((), rest)

/-- A name gives the backend that has it. -/
theorem yields_named (name : String) :
    Yields (fun cs => named name cs >>= fun backend => .ok (backend, cs)) []
      fun backend => name = backend.name := by
  simp only [← ofName?_eq_some_iff]
  unfold named
  cases ofName? name with
  | none => exact .of_fails (fun rest => ⟨_, rfl⟩) (by simp)
  | some backend => exact (Yields.of_ok fun rest => rfl).congr (by simp [eq_comm])

/-- A colon only moves on. -/
theorem yields_colon {bs : List Char} (hbs : Blanks bs) :
    Yields (moving Scan.colon) (bs ++ [':']) (· = ()) := by
  refine .of_ok fun rest => ?_
  rw [List.append_assoc, List.singleton_append, moving, Scan.colon_blanks hbs]
  rfl

/-- The value in the long form is `null`. -/
theorem yields_noPayload {bs v : List Char} {tree : Tree} (hbs : Blanks bs)
    (hv : Spells (.value tree) v) : Yields (moving noPayload) (bs ++ v) fun _ => tree = .null := by
  have hother : ∀ {c cs}, Scan.isSpace c = false → c ≠ 'n' →
      ∀ rest, ∃ e, moving noPayload (bs ++ c :: cs ++ rest) = .error e := by
    intro c cs hspace hc rest
    simp only [moving, noPayload, List.append_assoc, List.cons_append,
      Scan.skipSpaces_blanks_cons hbs hspace]
    split
    · next heq => cases heq; contradiction
    · exact ⟨_, rfl⟩
  cases hv.shape with
  | null =>
      refine (Yields.of_ok (b := ()) fun rest => ?_).congr (by simp)
      simp only [moving, noPayload, List.append_assoc, Scan.skipSpaces_blanks hbs]
      rfl
  | string | array | object => exact .of_fails (hother rfl (by decide)) (by simp)
  | bool _ hspace hc | numeral _ hspace hc =>
      exact .of_fails (hother hspace (by rintro rfl; simp at hc)) (by simp)

/-- The long form ends behind its only entry. -/
theorem yields_payloadEnd {es : Tree.Entries} {cs : List Char} (h : Spells (.entries false es) cs) :
    Yields (moving payloadEnd) cs fun _ => es = [] := by
  cases h with
  | entriesEnd _ hbs =>
      refine (Yields.of_ok (b := ()) fun rest => ?_).congr (by simp)
      simp only [moving, payloadEnd, List.append_assoc, List.singleton_append,
        Scan.skipSpaces_blanks_cons hbs (c := '\x7d') rfl, except_ok_bind]
  | entry hsep _ _ _ _ _ =>
      -- The comma in front of a second entry is refused.
      cases hsep with
      | comma hbs _ =>
          refine .of_fails (fun rest => ?_) (by simp)
          simp only [moving, payloadEnd, List.append_assoc, List.cons_append,
            Scan.skipSpaces_blanks_cons hbs (c := ',') rfl]
          exact ⟨_, rfl⟩

/-- The short form of a backend. -/
theorem yields_shortForm {cs : List Char} {signs : List Sign} (h : Characters cs signs) :
    Yields scan ('"' :: (cs ++ ['"']))
      fun backend => WrittenAs backend (.string (textOf? signs)) := by
  have hparts := (Scan.yields_string h).bind yields_named
  refine (hparts.of_eq fun rest => ?_).congr fun backend => ?_
  · simp only [scan, List.cons_append, List.append_nil, Scan.skipSpaces_cons (c := '"') rfl]
  · simp [writtenAs_string_iff]

/-- The long form of a backend. -/
theorem yields_longForm {es : Tree.Entries} {cs : List Char} (h : Spells (.entries true es) cs) :
    Yields scan ('\x7b' :: cs) fun backend => WrittenAs backend (.object es) := by
  cases h with
  | entriesEnd _ hbs =>
      refine .of_fails (fun rest => ?_) (by simp [writtenAs_object_iff])
      simp only [scan, List.append_assoc, List.cons_append, List.nil_append,
        Scan.skipSpaces_cons (c := '\x7b') rfl, Scan.skipSpaces_blanks_cons hbs (c := '\x7d') rfl]
      exact ⟨_, rfl⟩
  | entry hsep hkey hbs hbs' hv h =>
      -- One step for each part of the text: name, colon, `null` and brace.
      have hparts := (Scan.yields_string hkey).bind fun name =>
        (yields_named name).bind fun backend =>
          (yields_colon hbs).bind fun _ =>
            (yields_noPayload hbs' hv).bind fun _ =>
              (yields_payloadEnd h).bind fun _ => .pure backend
      cases hsep with
      | start hsep =>
          refine (hparts.of_eq fun rest => ?_).congr fun backend => ?_
          · simp only [scan, moving, List.append_assoc, List.cons_append, List.nil_append,
              Scan.skipSpaces_cons (c := '\x7b') rfl,
              Scan.skipSpaces_blanks_cons hsep (c := '"') rfl, bind_assoc, except_ok_bind]
          · rw [writtenAs_object_iff, List.cons.injEq, Prod.mk.injEq]
            constructor
            · rintro ⟨_, hname, _, rfl, _, -, _, rfl, _, rfl, rfl⟩
              exact ⟨⟨hname, rfl⟩, rfl⟩
            · rintro ⟨⟨hname, rfl⟩, rfl⟩
              exact ⟨_, hname, backend, rfl, (), rfl, (), rfl, (), rfl, rfl⟩

/-- Backends are read as they are written. -/
theorem typed_scan : Typed scan WrittenAs where
  blanks hbs cs := by simp only [scan, Scan.skipSpaces_blanks hbs]
  yields {v tree} h := by
    have hother : ∀ {c cs}, Scan.isSpace c = false → c ∉ ['"', '\x7b'] →
        ∀ rest, ∃ e, scan (c :: cs ++ rest) = .error e := by
      intro c cs hspace hc rest
      simp only [scan, List.cons_append, Scan.skipSpaces_cons hspace]
      split <;> simp_all
    cases h.shape with
    | string hcs => exact yields_shortForm hcs
    | object hcs => exact yields_longForm hcs
    | array | null => exact .of_fails (hother rfl (by decide)) (by rintro _ ⟨⟩)
    | bool _ hspace hc | numeral _ hspace hc =>
        exact .of_fails (hother hspace (by simp_all)) (by rintro _ ⟨⟩)

end Sql.Backend

namespace Settings

/-! ### Values of entries -/

section

variable {α : Type} {form : Form} {R : α → Tree → Prop} {item : Scan α}

/-- Only `null` in a settings file comes to nothing. -/
theorem slot_iff {x : Option α} {tree : Tree} (h : form = .alone ∨ tree ≠ .null) :
    Slot form R x tree ↔ ∃ a, R a tree ∧ x = some a := by
  constructor
  · rintro (hform | ha)
    · rcases h with hform' | hne
      · cases hform.symm.trans hform'
      · contradiction
    · exact ⟨_, ha, rfl⟩
  · rintro ⟨a, ha, rfl⟩
    exact .given ha

/-- What is read for a key, with the blanks in front of it. -/
theorem yields_slot (hitem : Typed item R) (hnull : ∀ a, ¬ R a .null) (form : Form)
    {bs v : List Char} {tree : Tree} (hbs : Blanks bs) (hv : Spells (.value tree) v) :
    Yields (Section.slot form item) (bs ++ v) fun x => Slot form R x tree := by
  have hparts : Yields (Section.slot .alone item) v fun x => ∃ a, R a tree ∧ x = some a := by
    have hitems := (hitem.yields hv).bind fun a => .pure (some a)
    rwa [List.append_nil] at hitems
  cases form with
  | alone =>
      refine (hparts.of_eq fun rest => ?_).congr fun x => (slot_iff (.inl rfl)).symm
      rw [Section.slot, Section.slot, List.append_assoc, hitem.blanks hbs]
  | inFile =>
      -- The first character tells whether the value is `null`.
      have hgiven : ∀ {c cs}, v = c :: cs → Scan.isSpace c = false → c ≠ 'n' → tree ≠ .null →
          Yields (Section.slot .inFile item) (bs ++ v) fun x => Slot .inFile R x tree := by
        rintro c cs rfl hspace hc hne
        refine (hparts.of_eq fun rest => ?_).congr fun x => (slot_iff (.inr hne)).symm
        simp only [Section.slot, Scan.optional, List.append_assoc, List.cons_append,
          Scan.skipSpaces_blanks_cons hbs hspace]
        split
        · next heq => cases heq; contradiction
        · rfl
      cases hv.shape with
      | null =>
          refine (Yields.of_ok (b := none) fun rest => ?_).congr fun x => ⟨?_, ?_⟩
          · simp only [Section.slot, Scan.optional, List.append_assoc, Scan.skipSpaces_blanks hbs]
            rfl
          · rintro rfl
            exact .null rfl
          · rintro (_ | ha)
            · rfl
            · exact absurd ha (hnull _)
      | string | array | object => exact hgiven rfl rfl (by decide) (by simp)
      | bool _ hspace hc | numeral _ hspace hc =>
          exact hgiven rfl hspace (by rintro rfl; simp at hc) (by simp)

end

/-! ### One entry after the other -/

section

variable {α : Type} {form : Form} {R : α → Tree → Prop}

/-- What is known of one entry of a section before and after some values
under its key have been read. -/
def Taken (form : Form) (R : α → Tree → Prop) :
    Option (Option α) → List Tree → Option (Option α) → Prop
  | seen, [], seen' => seen' = seen
  | some _, _ :: _, _ => False
  | none, v :: vs, seen' => ∃ x, Slot form R x v ∧ Taken form R (some x) vs seen'

/-- A value is taken only if there was none before. -/
theorem taken_cons_iff {seen seen' : Option (Option α)} {v : Tree} {vs : List Tree} :
    Taken form R seen (v :: vs) seen' ↔
      seen = none ∧ ∃ x, Slot form R x v ∧ Taken form R (some x) vs seen' := by
  cases seen <;> simp [Taken]

/-- From the start, what is known is what the values come to. -/
theorem taken_none_iff {seen : Option (Option α)} {vs : List Tree} :
    Taken form R none vs seen ↔ Entry form R seen vs := by
  constructor
  · intro h
    cases vs with
    | nil =>
        cases h
        exact .absent
    | cons v vs =>
        obtain ⟨-, x, hx, hrest⟩ := taken_cons_iff.mp h
        cases vs with
        | nil =>
            cases hrest
            exact .once hx
        | cons => cases hrest
  · rintro (_ | hx)
    · rfl
    · exact taken_cons_iff.mpr ⟨rfl, _, hx, rfl⟩

/-- One entry, as far as a known key is concerned: it is the first one
with that key and has a value that fits, or its key is another one. -/
def Gains (form : Form) (R : α → Tree → Prop) (known key : String) (v : Tree)
    (seen seen₁ : Option (Option α)) : Prop :=
  if key = known then seen = none ∧ ∃ x, Slot form R x v ∧ seen₁ = some x else seen₁ = seen

/-- An entry with another key changes nothing. -/
theorem gains_of_ne {known key : String} (hne : key ≠ known) {v : Tree}
    {seen seen₁ : Option (Option α)} :
    Gains form R known key v seen seen₁ ↔ seen₁ = seen := by
  rw [Gains, if_neg hne]

/-- One entry, and then the others. -/
theorem taken_valuesOf_cons_iff {known key : String} {v : Tree} {es : Tree.Entries}
    {seen seen' : Option (Option α)} :
    Taken form R seen (valuesOf known ((some key, v) :: es)) seen' ↔
      ∃ seen₁, Gains form R known key v seen seen₁ ∧
        Taken form R seen₁ (valuesOf known es) seen' := by
  unfold Gains
  split_ifs with hkey
  · subst hkey
    rw [valuesOf_cons_self, taken_cons_iff]
    constructor
    · rintro ⟨hseen, x, hx, hrest⟩
      exact ⟨_, ⟨hseen, x, hx, rfl⟩, hrest⟩
    · rintro ⟨_, ⟨hseen, x, hx, rfl⟩, hrest⟩
      exact ⟨hseen, x, hx, hrest⟩
  · rw [valuesOf_cons_of_ne hkey]
    simp only [exists_eq_left]

end

namespace Section

/-- One entry is taken in. -/
structure Takes (form : Form) (s : Section) (key : String) (v : Tree) (s₁ : Section) : Prop where
  backend : Gains form Backend.WrittenAs "backend" key v s.backend s₁.backend
  metadataColumn :
    Gains form Tree.IsText "metadata_column" key v s.metadataColumn s₁.metadataColumn
  specificColumns :
    Gains form Tree.IsTexts "specific_columns" key v s.specificColumns s₁.specificColumns

/-- All entries of an object are taken in, each known key for itself. -/
structure Extends (form : Form) (s : Section) (es : Tree.Entries) (s' : Section) : Prop where
  keys : ∀ entry ∈ es, entry.1 ≠ none
  backend : Taken form Backend.WrittenAs s.backend (valuesOf "backend" es) s'.backend
  metadataColumn :
    Taken form Tree.IsText s.metadataColumn (valuesOf "metadata_column" es) s'.metadataColumn
  specificColumns :
    Taken form Tree.IsTexts s.specificColumns (valuesOf "specific_columns" es) s'.specificColumns

section

variable {form : Form} {s s' : Section} {es : Tree.Entries}

/-- Without entries the section stays as it is. -/
theorem extends_nil_iff : Extends form s [] s' ↔ s' = s := by
  constructor
  · rintro ⟨-, hbackend, hcolumn, hcolumns⟩
    cases s
    cases s'
    simp_all [Taken, valuesOf]
  · rintro rfl
    exact ⟨by simp, rfl, rfl, rfl⟩

/-- What one more entry in front changes. -/
theorem extends_cons_iff {key : String} {v : Tree} :
    Extends form s ((some key, v) :: es) s' ↔
      ∃ s₁, Takes form s key v s₁ ∧ Extends form s₁ es s' := by
  have hkeys : (∀ entry ∈ (some key, v) :: es, entry.1 ≠ none) ↔ ∀ entry ∈ es, entry.1 ≠ none := by
    simp
  constructor
  · rintro ⟨hall, hbackend, hcolumn, hcolumns⟩
    obtain ⟨backend, hbackend, hbackend'⟩ := taken_valuesOf_cons_iff.mp hbackend
    obtain ⟨column, hcolumn, hcolumn'⟩ := taken_valuesOf_cons_iff.mp hcolumn
    obtain ⟨columns, hcolumns, hcolumns'⟩ := taken_valuesOf_cons_iff.mp hcolumns
    exact ⟨⟨backend, column, columns⟩, ⟨hbackend, hcolumn, hcolumns⟩, hkeys.mp hall, hbackend',
      hcolumn', hcolumns'⟩
  · rintro ⟨s₁, ⟨hbackend, hcolumn, hcolumns⟩, hall, hbackend', hcolumn', hcolumns'⟩
    exact ⟨hkeys.mpr hall, taken_valuesOf_cons_iff.mpr ⟨_, hbackend, hbackend'⟩,
      taken_valuesOf_cons_iff.mpr ⟨_, hcolumn, hcolumn'⟩,
      taken_valuesOf_cons_iff.mpr ⟨_, hcolumns, hcolumns'⟩⟩

/-- Entries in sequence, seen key by key. -/
theorem folds_takes_iff : Folds (Takes form) s es s' ↔ Extends form s es s' := by
  induction es generalizing s with
  | nil =>
      rw [extends_nil_iff]
      constructor
      · rintro ⟨⟩
        rfl
      · rintro rfl
        exact .nil _
  | cons entry es ih =>
      obtain ⟨key, v⟩ := entry
      cases key with
      | none =>
          constructor
          · rintro ⟨⟩
          · intro h
            exact absurd rfl (h.keys _ (.head _))
      | some key =>
          simp only [extends_cons_iff, ← ih]
          constructor
          · rintro (_ | ⟨h, hrest⟩)
            exact ⟨_, h, hrest⟩
          · rintro ⟨s₁, h, hrest⟩
            exact .cons h hrest

/-- From the start, all entries together are what the section says. -/
theorem extends_empty_iff : Extends form {} es s ↔ s.SaidBy form es := by
  constructor
  · rintro ⟨hkeys, hbackend, hcolumn, hcolumns⟩
    exact ⟨hkeys, taken_none_iff.mp hbackend, taken_none_iff.mp hcolumn,
      taken_none_iff.mp hcolumns⟩
  · rintro ⟨hkeys, hbackend, hcolumn, hcolumns⟩
    exact ⟨hkeys, taken_none_iff.mpr hbackend, taken_none_iff.mpr hcolumn,
      taken_none_iff.mpr hcolumns⟩

end

/-! ### The object form -/

section

variable {bs bs' v rest : List Char} {tree : Tree} (hbs : Blanks bs) (hbs' : Blanks bs')
  (hv : Spells (.value tree) v)

include hbs hbs' hv

/-- A known entry is taken if it is the first one with its key and has a
value that fits. -/
theorem entry_eq_ok_iff {α σ : Type} {R : α → Tree → Prop} {item : Scan α} (hitem : Typed item R)
    (hnull : ∀ a, ¬ R a .null) (form : Form) (key : String) {seen : Option (Option α)}
    {f : Option α → σ} {s₁ : σ} {after : List Char} :
    (entry form key seen item (bs ++ ':' :: (bs' ++ (v ++ rest))) >>= fun (x, rest) =>
        .ok (f x, rest)) = .ok (s₁, after) ↔
      (seen = none ∧ ∃ x, Slot form R x tree ∧ s₁ = f x) ∧ after = rest := by
  have hslot := yields_slot hitem hnull form hbs' hv rest
  rw [List.append_assoc] at hslot
  unfold entry
  rw [Scan.colon_blanks hbs, except_ok_bind]
  cases seen with
  | some => simp
  | none =>
      simp only [Option.isSome_none, Bool.false_eq_true, if_false, except_bind_eq_ok_iff,
        Prod.exists, hslot]
      constructor
      · rintro ⟨x, _, ⟨hx, rfl⟩, ⟨⟩⟩
        exact ⟨⟨trivial, x, hx, rfl⟩, rfl⟩
      · rintro ⟨⟨-, x, hx, rfl⟩, rfl⟩
        exact ⟨x, _, ⟨hx, rfl⟩, rfl⟩

/-- Any entry, in either place. -/
theorem member_eq_ok_iff (hrest : Scan.Stops rest) (form : Form) {s s₁ : Section} {key : String}
    {after : List Char} :
    member form s key (bs ++ ':' :: (bs' ++ (v ++ rest))) = .ok (s₁, after) ↔
      Takes form s key tree s₁ ∧ after = rest := by
  obtain ⟨backend, column, columns⟩ := s₁
  unfold member
  split_ifs with hbackend hcolumn hcolumns
  · subst hbackend
    refine (entry_eq_ok_iff hbs hbs' hv Backend.typed_scan (by rintro _ ⟨⟩) form _
      (f := fun x => { s with backend := some x })).trans (and_congr_left fun _ => ?_)
    constructor
    · rintro ⟨hseen, x, hx, ⟨⟩⟩
      exact ⟨⟨hseen, x, hx, rfl⟩, rfl, rfl⟩
    · rintro ⟨⟨hseen, x, hx, rfl⟩, rfl, rfl⟩
      exact ⟨hseen, x, hx, rfl⟩
  · subst hcolumn
    refine (entry_eq_ok_iff hbs hbs' hv Scan.typed_text (by rintro _ ⟨⟩) form _
      (f := fun x => { s with metadataColumn := some x })).trans (and_congr_left fun _ => ?_)
    constructor
    · rintro ⟨hseen, x, hx, ⟨⟩⟩
      exact ⟨rfl, ⟨hseen, x, hx, rfl⟩, rfl⟩
    · rintro ⟨rfl, ⟨hseen, x, hx, rfl⟩, rfl⟩
      exact ⟨hseen, x, hx, rfl⟩
  · subst hcolumns
    refine (entry_eq_ok_iff hbs hbs' hv Scan.typed_texts (by rintro _ ⟨⟩) form _
      (f := fun x => { s with specificColumns := some x })).trans (and_congr_left fun _ => ?_)
    constructor
    · rintro ⟨hseen, x, hx, ⟨⟩⟩
      exact ⟨rfl, rfl, hseen, x, hx, rfl⟩
    · rintro ⟨rfl, rfl, hseen, x, hx, rfl⟩
      exact ⟨hseen, x, hx, rfl⟩
  · -- Any other key: the value is passed over and the section stays as it is.
    rw [Scan.colon_blanks hbs, except_ok_bind, Scan.pass_of_spells hv hbs' hrest, except_ok_bind]
    constructor
    · rintro ⟨⟩
      exact ⟨⟨(gains_of_ne hbackend).mpr rfl, (gains_of_ne hcolumn).mpr rfl,
        (gains_of_ne hcolumns).mpr rfl⟩, rfl⟩
    · rintro ⟨⟨hbackend', hcolumn', hcolumns'⟩, rfl⟩
      cases (gains_of_ne hbackend).mp hbackend'
      cases (gains_of_ne hcolumn).mp hcolumn'
      cases (gains_of_ne hcolumns).mp hcolumns'
      rfl

end

/-- The entries of an object after its opening brace, in either place. -/
theorem yields_object {es : Tree.Entries} {cs : List Char} (h : Spells (.entries true es) cs)
    (form : Form) : Yields (Scan.entries (member form) {}) cs fun s => s.SaidBy form es := by
  intro rest s after
  simp only [← extends_empty_iff, ← folds_takes_iff]
  constructor
  · intro hrun
    exact Scan.folds_of_entriesFrom
      (fun hbs hbs' hv hrest => (member_eq_ok_iff hbs hbs' hv hrest form).mp) h hrun
  · rintro ⟨hfolds, rfl⟩
    have hlimit : cs.length ≤ (cs ++ after).length + 1 := by
      rw [List.length_append]
      omega
    exact Scan.entriesFrom_of_folds
      (fun hbs hbs' hv hrest hstep => (member_eq_ok_iff hbs hbs' hv hrest form).mpr ⟨hstep, rfl⟩) h
      hlimit hfolds after

/-! ### The array form -/

/-- One item of the array form, given what comes of the rest. An array
in a file has all its items. -/
theorem yields_nextSlot {α : Type} {R : α → Tree → Prop} {item : Scan α} (hitem : Typed item R)
    (hnull : ∀ a, ¬ R a .null)
    {next : Option α × List Char → Except Json.Failure (Section × List Char)}
    {Q : Option α → List Tree → Section → Prop}
    (hnext : ∀ x {trees cs}, Spells (.items false trees) cs →
      Yields (fun cs => next (x, cs)) cs (Q x trees))
    {first : Bool} {trees : List Tree} {cs : List Char} (h : Spells (.items first trees) cs)
    (count : Nat) (s : Section) :
    Yields (fun cs => Scan.nextItem first cs >>= fun (more, cs) =>
        if !more then cutShort .inFile count s cs else slot .inFile item cs >>= next) cs
      fun s => ∃ tree others, trees = tree :: others ∧
        ∃ x, Slot .inFile R x tree ∧ Q x others s := by
  cases h with
  | itemsEnd _ hbs =>
      refine .of_fails (fun rest => ?_) (by simp)
      rw [List.append_assoc, List.singleton_append,
        Scan.nextItem_close first (Scan.skipSpaces_blanks_cons hbs rfl rest)]
      exact ⟨_, rfl⟩
  | @item _ sep v cs tree others hsep hv h =>
      have hparts := (yields_slot hitem hnull .inFile blanks_nil hv).bind fun x => hnext x h
      refine (hparts.of_eq fun rest => ?_).congr fun s => ?_
      · rw [List.append_assoc, List.append_assoc, Scan.nextItem_item hsep hv, except_ok_bind,
          List.nil_append, List.append_assoc]
        rfl
      · constructor
        · rintro ⟨x, hx, hs⟩
          exact ⟨tree, others, rfl, x, hx, hs⟩
        · rintro ⟨_, _, ⟨⟩, x, hx, hs⟩
          exact ⟨x, hx, hs⟩

/-- Behind the third item the array ends. -/
theorem yields_arrayEnd {trees : List Tree} {cs : List Char} (h : Spells (.items false trees) cs)
    (s : Section) : Yields (arrayEnd s) cs fun s' => trees = [] ∧ s' = s := by
  cases h with
  | itemsEnd _ hbs =>
      refine (Yields.of_ok (b := s) fun rest => ?_).congr (by simp)
      simp only [arrayEnd, List.append_assoc, List.singleton_append,
        Scan.skipSpaces_blanks_cons hbs (c := ']') rfl]
  | item hsep hv h =>
      cases hsep with
      | comma hbs hbs' =>
          refine .of_fails (fun rest => ?_) (by simp)
          simp only [arrayEnd, List.append_assoc, List.cons_append,
            Scan.skipSpaces_blanks_cons hbs (c := ',') rfl]
          split <;> exact ⟨_, rfl⟩

/-- The items of an array after its opening bracket. -/
theorem yields_array {trees : List Tree} {cs : List Char} (h : Spells (.items true trees) cs) :
    Yields (array .inFile) cs fun s => s.WrittenAs (.array trees) := by
  -- One slot after the other, each with what has been read so far; the end comes after the third.
  have hparts : Yields (array .inFile) cs fun s =>
      ∃ v others, trees = v :: others ∧ ∃ backend, Slot .inFile Backend.WrittenAs backend v ∧
      ∃ v others', others = v :: others' ∧ ∃ column, Slot .inFile Tree.IsText column v ∧
      ∃ v others'', others' = v :: others'' ∧ ∃ columns, Slot .inFile Tree.IsTexts columns v ∧
        others'' = [] ∧ s = ⟨some backend, some column, some columns⟩ := by
    refine yields_nextSlot Backend.typed_scan (by rintro _ ⟨⟩) (fun backend _ _ h => ?_) h 0 {}
    refine yields_nextSlot Scan.typed_text (by rintro _ ⟨⟩) (fun column _ _ h => ?_) h 1 _
    refine yields_nextSlot Scan.typed_texts (by rintro _ ⟨⟩) (fun columns _ _ h => ?_) h 2 _
    exact yields_arrayEnd h _
  refine hparts.congr fun s => ⟨?_, ?_⟩
  · rintro ⟨_, _, rfl, _, hbackend, _, _, rfl, _, hcolumn, _, _, rfl, _, hcolumns, rfl, rfl⟩
    exact .array ⟨by simp, .once hbackend, .once hcolumn, .once hcolumns⟩
  · rintro (_ | ⟨-, hbackend, hcolumn, hcolumns⟩)
    obtain ⟨backend, column, columns⟩ := s
    cases hbackend with
    | once hbackend =>
        cases hcolumn with
        | once hcolumn =>
            cases hcolumns with
            | once hcolumns =>
                exact ⟨_, _, rfl, _, hbackend, _, _, rfl, _, hcolumn, _, _, rfl, _, hcolumns, rfl,
                  rfl⟩

/-- A section in a settings file is read as it is written. -/
theorem typed_scan : Typed (scan .inFile) WrittenAs where
  blanks hbs cs := by simp only [scan, Scan.skipSpaces_blanks hbs]
  yields {v tree} h := by
    have hother : ∀ {c cs}, Scan.isSpace c = false → c ∉ ['[', '\x7b'] →
        ∀ rest, ∃ e, scan .inFile (c :: cs ++ rest) = .error e := by
      intro c cs hspace hc rest
      simp only [scan, List.cons_append, Scan.skipSpaces_cons hspace]
      split <;> simp_all
    cases h.shape with
    | array hcs =>
        refine (yields_array hcs).of_eq fun rest => ?_
        simp only [scan, List.cons_append, Scan.skipSpaces_cons (c := '[') rfl]
    | object hcs =>
        refine ((yields_object hcs .inFile).of_eq fun rest => ?_).congr fun s => ?_
        · simp only [scan, List.cons_append, Scan.skipSpaces_cons (c := '\x7b') rfl]
        · constructor
          · exact .object
          · rintro ⟨h⟩
            exact h
    | string | null => exact .of_fails (hother rfl (by decide)) (by rintro _ ⟨⟩)
    | bool _ hspace hc | numeral _ hspace hc =>
        exact .of_fails (hother hspace (by simp_all)) (by rintro _ ⟨⟩)

end Section

/-! ### Settings files -/

namespace Contents

/-- One entry of a settings file. A value that is not used is read to its
end, if it is read at all. -/
theorem gains_of_member {contents contents₁ : Contents} {key : String}
    {bs bs' v rest after : List Char} {tree : Tree} (hbs : Blanks bs) (hbs' : Blanks bs') (hv : Spells (.value tree) v)
    (hrest : Scan.Stops rest)
    (h : member contents key (bs ++ ':' :: (bs' ++ (v ++ rest))) = .ok (contents₁, after)) :
    Gains .inFile Section.WrittenAs "filter" key tree contents.filter contents₁.filter ∧
      after = rest := by
  unfold member at h
  split_ifs at h with hkey hseen
  · subst hkey
    rw [Bool.not_eq_true, Option.isSome_eq_false_iff, Option.isNone_iff_eq_none] at hseen
    rw [Scan.colon_blanks hbs, except_ok_bind] at h
    obtain ⟨⟨x, mid⟩, hslot, hfound⟩ := except_bind_eq_ok_iff.mp h
    have hyields := yields_slot Section.typed_scan (by rintro _ ⟨⟩) .inFile hbs' hv rest x mid
    rw [List.append_assoc] at hyields
    obtain ⟨hx, rfl⟩ := hyields.mp hslot
    cases hfound
    exact ⟨⟨hseen, x, hx, rfl⟩, rfl⟩
  · rw [Scan.colon_blanks hbs, except_ok_bind] at h
    obtain ⟨⟨value, mid⟩, hvalue, hfound⟩ := except_bind_eq_ok_iff.mp h
    cases hfound
    -- The value ends where the laxer scan comes to its end.
    have htracks := Scan.tracks_pass innerNesting (bs' ++ (v ++ rest))
    rw [Scan.pass_of_spells hv hbs' hrest, hvalue] at htracks
    exact ⟨(gains_of_ne hkey).mpr (filter_addUnknown contents key), htracks.2.symm⟩

/-- All entries of a file, as far as the section is concerned. -/
theorem writtenAs_of_folds {contents contents' : Contents} {es : Tree.Entries}
    (h : Folds (fun contents key tree contents₁ =>
      Gains .inFile Section.WrittenAs "filter" key tree contents.filter contents₁.filter)
      contents es contents') :
    Taken .inFile Section.WrittenAs contents.filter (valuesOf "filter" es) contents'.filter := by
  induction h with
  | nil => rfl
  | cons hgains _ ih => exact taken_valuesOf_cons_iff.mpr ⟨_, hgains, ih⟩

/-- What is read of the front of a text is what the value there says. -/
theorem writtenAs_of_scan {contents : Contents} {bs v rest after : List Char} {tree : Tree}
    (hbs : Blanks bs) (hv : Spells (.value tree) v)
    (h : scan (bs ++ (v ++ rest)) = .ok (contents, after)) : contents.WrittenAs tree := by
  have hother : ∀ {c cs}, Scan.isSpace c = false → c ≠ '\x7b' →
      ∀ x, scan (bs ++ (c :: cs ++ rest)) ≠ .ok x := by
    intro c cs hspace hc x hx
    simp only [scan, List.cons_append, Scan.skipSpaces_blanks_cons hbs hspace] at hx
    split at hx
    · next heq => cases heq; contradiction
    · cases hx
  cases hv.shape with
  | object hcs =>
      simp only [scan, List.cons_append, Scan.skipSpaces_blanks_cons hbs (c := '\x7b') rfl] at h
      have hfolds := (Scan.folds_of_entriesFrom gains_of_member hcs h).1
      exact .object (taken_none_iff.mp (writtenAs_of_folds hfolds))
  | string | array | null => exact absurd h (hother rfl (by decide) _)
  | bool _ hspace hc | numeral _ hspace hc =>
      exact absurd h (hother hspace (by rintro rfl; simp at hc) _)

/-- What is read of a settings file is what its text says. -/
theorem saidIn_of_isDocument {text : String} {contents : Contents} {doc : Tree}
    (h : read text = .ok contents) (hdoc : IsDocument doc text) :
    contents.layoutSection.SaidIn doc := by
  obtain ⟨hbs, hv, -, htext⟩ := hdoc
  rw [read, except_mapError_eq_ok_iff, htext, except_bind_eq_ok_iff] at h
  obtain ⟨⟨found, rest⟩, hscan, hend⟩ := h
  obtain ⟨⟨⟩, -, hfound⟩ := except_bind_eq_ok_iff.mp hend
  cases hfound
  exact saidIn_of_writtenAs (writtenAs_of_scan hbs hv hscan)

end Contents

end Settings

end FilterSql
