import FilterSql.Proofs.EntryPoints
import FilterSql.Proofs.Json.Grammar
import FilterSql.Proofs.Json.Passing
import FilterSql.Settings.File

/-!
# `FilterSql.Proofs.SettingsDocument`: settings files as JSON documents

The relations `WrittenAs` give the JSON form of each kind of setting,
without any text and without any reader. A section says something about
a key if the key is there exactly once: it has a value of the right kind,
or in a settings file also `null` (`Slot`). It says nothing if the key is
absent, and there is no other way (`Entry`).

A settings file is read straight from its text. This module compares
that with reading the text as a JSON value: wherever both succeed, the
settings say what the document says (`Contents.saidIn_of_read`). The
proof runs the two readers side by side: each scan for a kind of setting
ends where the scan for values ends, with results that are related by
`WrittenAs`.
-/

set_option autoImplicit false

namespace FilterSql

open Json (Fields Scan Abreast Tree)
open Sql (Backend)

/-- The values under a key. -/
def Json.Tree.valuesOf (key : String) (es : Tree.Entries) : List Tree :=
  es.filterMap fun entry => if entry.1 = some key then some entry.2 else none

open Json.Tree (valuesOf)

/-! ### The JSON form of settings -/

/-- A backend is written as its name, or as an object with the name as
its only key. -/
inductive Sql.Backend.WrittenAs : Backend → Tree → Prop where
  | name (backend : Backend) : WrittenAs backend (.string (some backend.name))
  | key (backend : Backend) : WrittenAs backend (.object [(some backend.name, .null)])

namespace Settings

/-- What the value of a key comes to. Only in a settings file it may be
`null`, which stands for nothing. -/
inductive Slot {α : Type} (form : Form) (R : α → Tree → Prop) : Option α → Tree → Prop where
  | null (hform : form = .inFile) : Slot form R none .null
  | given {a : α} {v : Tree} (h : R a v) : Slot form R (some a) v

/-- What all values of a key come to. There may be one at most. -/
inductive Entry {α : Type} (form : Form) (R : α → Tree → Prop) :
    Option (Option α) → List Tree → Prop where
  | absent : Entry form R none []
  | once {x : Option α} {v : Tree} (h : Slot form R x v) : Entry form R (some x) [v]

/-- A section and the entries that it is made of. -/
structure Section.SaidBy (form : Form) (s : Section) (es : Tree.Entries) : Prop where
  keys : ∀ entry ∈ es, entry.1 ≠ none
  backend : Entry form Backend.WrittenAs s.backend (valuesOf "backend" es)
  metadataColumn : Entry form Tree.IsText s.metadataColumn (valuesOf "metadata_column" es)
  specificColumns : Entry form Tree.IsTexts s.specificColumns (valuesOf "specific_columns" es)

/-- In a settings file a section is written as an object, or as an array
with all three values in order. -/
inductive Section.WrittenAs (s : Section) : Tree → Prop where
  | object {es : Tree.Entries} (h : s.SaidBy .inFile es) : WrittenAs s (.object es)
  | array {backend column columns : Tree}
    (h : s.SaidBy .inFile [(some "backend", backend), (some "metadata_column", column),
      (some "specific_columns", columns)]) :
    WrittenAs s (.array [backend, column, columns])

/-- A settings file is written as an object with the section under the
key `filter`. -/
inductive Contents.WrittenAs (contents : Contents) : Tree → Prop where
  | object {es : Tree.Entries}
    (h : Entry .inFile Section.WrittenAs contents.filter (valuesOf "filter" es)) :
    WrittenAs contents (.object es)

/-- The section that a document holds; without one nothing is said. -/
inductive Section.SaidIn : Section → Tree → Prop where
  | silent {es : Tree.Entries} (hfilter : valuesOf "filter" es = [] ∨ valuesOf "filter" es = [.null]) :
    SaidIn {} (.object es)
  | said {s : Section} {es : Tree.Entries} {v : Tree} (hfilter : valuesOf "filter" es = [v])
    (h : s.WrittenAs v) : SaidIn s (.object es)

/-- What the contents of a file come to is what the document holds. -/
theorem Contents.saidIn_of_writtenAs {contents : Contents} {doc : Tree}
    (h : contents.WrittenAs doc) : contents.layoutSection.SaidIn doc := by
  obtain ⟨filter, unknown⟩ := contents
  cases h with
  | @object es h =>
      generalize hfilter : valuesOf "filter" es = found at h
      cases h with
      | absent => exact .silent (.inl hfilter)
      | once h =>
          cases h with
          | null => exact .silent (.inr hfilter)
          | given h => exact .said hfilter h

end Settings

/-! ### Values as trees -/

namespace Json

mutual

/-- A value as it would be written. -/
def tree : Json → Tree
  | .null => .null
  | .bool b => .bool b
  | .number n => .numeral n.text.toList
  | .string s => .string (some s)
  | .array items => .array (treeItems items)
  | .object fields => .object (treeFields fields)

/-- The items of an array. -/
def treeItems : List Json → List Tree
  | [] => []
  | v :: items => v.tree :: treeItems items

/-- The entries of an object. -/
def treeFields : List (String × Json) → Tree.Entries
  | [] => []
  | (key, v) :: fields => (some key, v.tree) :: treeFields fields

end

/-- Every key of a value that was read is a text. -/
theorem keys_treeFields (fields : Fields) : ∀ entry ∈ treeFields fields, entry.1 ≠ none := by
  induction fields with
  | nil => simp [treeFields]
  | cons entry fields ih =>
      rw [treeFields, List.forall_mem_cons]
      exact ⟨by simp, ih⟩

end Json

section

variable {key k : String} {v : Tree} {es : Tree.Entries}

theorem valuesOf_cons_self : valuesOf key ((some key, v) :: es) = v :: valuesOf key es := by
  rw [valuesOf, List.filterMap_cons, if_pos rfl, valuesOf]

theorem valuesOf_cons_of_ne (hne : k ≠ key) : valuesOf key ((some k, v) :: es) = valuesOf key es := by
  have hne' : some k ≠ some key := fun h => hne (Option.some.inj h)
  rw [valuesOf, List.filterMap_cons, if_neg hne', valuesOf]

end

/-- A new key is found with its value. -/
theorem valuesOf_insert_self {fields : Fields} {key : String}
    (h : valuesOf key (Json.treeFields fields) = []) (v : Json) :
    valuesOf key (Json.treeFields (fields.insert key v)) = [v.tree] := by
  induction fields with
  | nil => exact valuesOf_cons_self
  | cons entry fields ih =>
      obtain ⟨k, w⟩ := entry
      rw [Json.treeFields] at h
      by_cases hk : k = key
      · subst hk
        rw [valuesOf_cons_self] at h
        cases h
      · rw [valuesOf_cons_of_ne hk] at h
        rw [Json.Entries.insert, if_neg hk, Json.treeFields, valuesOf_cons_of_ne hk, ih h]

/-- Other keys keep theirs. -/
theorem valuesOf_insert_of_ne {key k : String} (hne : key ≠ k) (fields : Fields) (v : Json) :
    valuesOf k (Json.treeFields (fields.insert key v)) = valuesOf k (Json.treeFields fields) := by
  induction fields with
  | nil => exact valuesOf_cons_of_ne hne
  | cons entry fields ih =>
      obtain ⟨k', w⟩ := entry
      rw [Json.Entries.insert]
      split
      · next hkey =>
          subst hkey
          simp only [Json.treeFields, valuesOf_cons_of_ne hne]
      · by_cases hk : k' = k
        · subst hk
          simp only [Json.treeFields, valuesOf_cons_self, ih]
        · simp only [Json.treeFields, valuesOf_cons_of_ne hk, ih]

/-! ### Scans for single values -/

namespace Json.Scan

section

variable {α : Type} {R : α → Json → Prop} {x : Except Json.Failure (α × List Char)}
  {cs rest : List Char}

/-- A reader beside the scan for an array. Without a level left the
array is refused, and then there is nothing to compare. -/
theorem tracks_value_of_array (hcs : skipSpaces cs = '[' :: rest)
    (h : ∀ levels, Tracks True (Abreast fun a vs => R a (.array vs)) x
      (items (value levels) rest)) (levels : Nat) :
    Tracks True (Abreast R) x (value levels cs) := by
  cases levels with
  | zero =>
      simp only [value_zero, valueWith, hcs]
      exact .of_mayFail trivial _ _
  | succ levels =>
      rw [value_of_array hcs]
      exact .map_right (h levels)

/-- A reader beside the scan for an object. -/
theorem tracks_value_of_object (hcs : skipSpaces cs = '\x7b' :: rest)
    (h : ∀ levels, Tracks True (Abreast fun a fields => R a (.object fields)) x
      (entries (member (value levels)) [] rest)) (levels : Nat) :
    Tracks True (Abreast R) x (value levels cs) := by
  cases levels with
  | zero =>
      simp only [value_zero, valueWith, hcs]
      exact .of_mayFail trivial _ _
  | succ levels =>
      rw [value_of_object hcs]
      exact .map_right (h levels)

end

/-- A string is read as its text beside the full reader. -/
theorem tracks_text (levels : Nat) (cs : List Char) :
    Tracks True (Abreast fun s v => Tree.IsText s v.tree) (text cs) (value levels cs) := by
  unfold text
  split
  · next rest hcs =>
      rw [value_of_string hcs]
      exact .map_right (.refl (fun _ => ⟨rfl, rfl⟩) _)
  · trivial

/-- An array whose items are strings. -/
theorem tree_of_forall₂ {names : List String} {vs : List Json}
    (h : List.Forall₂ (fun name v => Tree.IsText name v.tree) names vs) :
    Tree.IsTexts names (Json.array vs).tree := by
  rw [Tree.IsTexts, Json.tree]
  congr 1
  induction h with
  | nil => rfl
  | cons hv _ ih => rw [Json.treeItems, hv, ih, List.map_cons]

/-- An array of strings is read as their texts beside the full reader. -/
theorem tracks_texts (levels : Nat) (cs : List Char) :
    Tracks True (Abreast fun names v => Tree.IsTexts names v.tree) (texts cs)
      (value levels cs) := by
  unfold texts
  split
  · next rest hcs =>
      refine tracks_value_of_array hcs (fun levels => ?_) levels
      refine (tracks_items (tracks_text levels) rest).mono ?_
      rintro ⟨names, rest⟩ ⟨vs, _⟩ ⟨hnames, rfl⟩
      exact ⟨tree_of_forall₂ hnames, rfl⟩
  · trivial

/-- A scan for values that may be `null`. -/
theorem tracks_optional {α : Type} {R : α → Tree → Prop} {item : Scan α} {levels : Nat}
    (h : ∀ cs, Tracks True (Abreast fun a v => R a v.tree) (item cs) (value levels cs))
    (cs : List Char) :
    Tracks True (Abreast fun x v => Settings.Slot .inFile R x v.tree) (optional item cs)
      (value levels cs) := by
  unfold optional
  split
  · next rest hcs =>
      rw [value_of_null hcs]
      exact .bind_same _ fun rest => ⟨.null rfl, rfl⟩
  · rw [← value_skipSpaces]
    refine .map_left ((h _).mono ?_)
    rintro ⟨a, rest⟩ ⟨v, _⟩ ⟨hav, rfl⟩
    exact ⟨.given hav, rfl⟩

end Json.Scan

/-! ### Backends -/

namespace Sql.Backend

/-- A backend is found by its name only. -/
theorem eq_name_of_ofName? {name : String} {backend : Backend} (h : ofName? name = some backend) :
    name = backend.name := by
  unfold ofName? at h
  split at h
  · next hname => cases h; exact hname
  split at h
  · next hname => cases h; exact hname
  · cases h

/-- The same inside a text. -/
theorem named_eq_ok {name : String} {rest : List Char} {backend : Backend}
    (h : named name rest = .ok backend) : name = backend.name := by
  unfold named at h
  split at h
  · next hname => cases h; exact eq_name_of_ofName? hname
  · cases h

/-- The value in the long form of a backend is `null`. -/
theorem tracks_noPayload (levels : Nat) (cs : List Char) :
    Tracks True (fun rest x => x = (Json.null, rest)) (noPayload cs)
      (Scan.value levels cs) := by
  unfold noPayload
  split
  · next rest hcs =>
      rw [Scan.value_of_null hcs]
      exact .map_right (.refl (R := fun a b => (Json.null, b) = (Json.null, a)) (fun _ => rfl) _)
  · trivial

/-- The long form of a backend is an object that ends here. -/
theorem tracks_payloadEnd {σ : Type} (entry : σ → String → Scan σ) (limit : Nat) (state : σ)
    (cs : List Char) :
    Tracks True (fun rest x => x = (state, rest)) (payloadEnd cs)
      (Scan.entriesFrom entry limit false state cs) := by
  unfold payloadEnd
  split
  · next rest hcs =>
      cases limit with
      | zero => trivial
      | succ limit =>
          simp only [Scan.entriesFrom, Scan.nextKey, hcs, except_ok_bind]
          rfl
  · trivial
  · trivial

/-- A backend is read from either of its forms beside the full reader. -/
theorem tracks_scan (levels : Nat) (cs : List Char) :
    Tracks True (Abreast fun backend v => WrittenAs backend v.tree) (scan cs)
      (Scan.value levels cs) := by
  unfold scan
  split
  · trivial
  · next rest hcs =>
      rw [Scan.value_of_string hcs]
      refine .bind_same _ ?_
      rintro ⟨name, rest⟩
      dsimp only
      cases hbackend : named name rest with
      | error e => trivial
      | ok backend =>
          obtain rfl := named_eq_ok hbackend
          exact ⟨.name backend, rfl⟩
  · next rest hcs =>
      split
      · next after hrest =>
          -- The object has one entry: the key is the name, and its value is `null`.
          refine Scan.tracks_value_of_object hcs (fun levels => ?_) levels
          simp only [Scan.entries, Scan.entriesFrom, Scan.nextKey_of_string hrest, Scan.member,
            bind_assoc, except_ok_bind]
          refine .bind_same _ ?_
          rintro ⟨name, rest⟩
          cases hbackend : named name rest with
          | error e => trivial
          | ok backend =>
              obtain rfl := named_eq_ok hbackend
              rw [except_ok_bind]
              refine .bind_same _ fun rest => ?_
              refine .bind (tracks_noPayload levels rest) ?_
              rintro rest _ rfl
              refine .map_left ((tracks_payloadEnd _ _ _ rest).mono ?_)
              rintro rest _ rfl
              exact ⟨.key backend, rfl⟩
      all_goals trivial
  · trivial

end Sql.Backend

/-! ### Sections -/

namespace Settings.Section

variable {α : Type} {R : α → Tree → Prop} {s : Section} {fields : Fields} {v : Json}

/-- Without entries nothing is said. -/
theorem saidBy_nil (form : Form) : ({} : Section).SaidBy form [] :=
  ⟨by simp, .absent, .absent, .absent⟩

/-- The entry for a key after another one is read. -/
theorem entry_of_ne {seen : Option (Option α)} {key k : String}
    (h : Entry .inFile R seen (valuesOf k (Json.treeFields fields))) (hk : key ≠ k) :
    Entry .inFile R seen (valuesOf k (Json.treeFields (fields.insert key v))) := by
  rwa [valuesOf_insert_of_ne hk]

/-- The entry for a key after it is read for the first time. -/
theorem entry_self {x : Option α} {key : String}
    (h : Entry .inFile R none (valuesOf key (Json.treeFields fields)))
    (hx : Slot .inFile R x v.tree) :
    Entry .inFile R (some x) (valuesOf key (Json.treeFields (fields.insert key v))) := by
  generalize hfound : valuesOf key (Json.treeFields fields) = found at h
  cases h with
  | absent =>
      rw [valuesOf_insert_self hfound]
      exact .once hx

/-- The value of an entry, from the colon on. It is read only if there
was none before. -/
theorem tracks_entry {item : Scan α} {levels : Nat}
    (h : ∀ cs, Tracks True (Abreast fun a v => R a v.tree) (item cs) (Scan.value levels cs))
    (key : String) (seen : Option (Option α)) (cs : List Char) :
    Tracks True (Abreast fun x v => seen = none ∧ Slot .inFile R x v.tree)
      (entry .inFile key seen item cs) (Scan.colon cs >>= fun cs => Scan.value levels cs) := by
  unfold entry
  cases seen with
  | some => trivial
  | none =>
      refine .bind_same _ fun rest => (Scan.tracks_optional h rest).mono ?_
      rintro ⟨x, rest⟩ ⟨v, _⟩ ⟨hx, rfl⟩
      exact ⟨⟨rfl, hx⟩, rfl⟩

/-- One entry of a section. -/
theorem tracks_member (levels : Nat) (hs : s.SaidBy .inFile (Json.treeFields fields)) (key : String)
    (cs : List Char) :
    Tracks True (Abreast fun s fields => SaidBy .inFile s (Json.treeFields fields))
      (member .inFile s key cs) (Scan.member (Scan.value levels) fields key cs) := by
  rw [Scan.member_eq_bind]
  unfold member
  split
  · next hkey =>
      subst hkey
      refine .bind (tracks_entry (Backend.tracks_scan levels) _ _ cs) ?_
      rintro ⟨x, rest⟩ ⟨v, _⟩ ⟨⟨hseen, hx⟩, rfl⟩
      exact ⟨⟨Json.keys_treeFields _, entry_self (hseen ▸ hs.backend) hx,
        entry_of_ne hs.metadataColumn (by decide), entry_of_ne hs.specificColumns (by decide)⟩, rfl⟩
  split
  · next hkey =>
      subst hkey
      refine .bind (tracks_entry (Scan.tracks_text levels) _ _ cs) ?_
      rintro ⟨x, rest⟩ ⟨v, _⟩ ⟨⟨hseen, hx⟩, rfl⟩
      exact ⟨⟨Json.keys_treeFields _, entry_of_ne hs.backend (by decide),
        entry_self (hseen ▸ hs.metadataColumn) hx, entry_of_ne hs.specificColumns (by decide)⟩, rfl⟩
  split
  · next hkey =>
      subst hkey
      refine .bind (tracks_entry (Scan.tracks_texts levels) _ _ cs) ?_
      rintro ⟨x, rest⟩ ⟨v, _⟩ ⟨⟨hseen, hx⟩, rfl⟩
      exact ⟨⟨Json.keys_treeFields _, entry_of_ne hs.backend (by decide),
        entry_of_ne hs.metadataColumn (by decide), entry_self (hseen ▸ hs.specificColumns) hx⟩, rfl⟩
  · next hbackend hmetadata hspecific =>
      -- An unknown key: its value is passed over on one side and read on the other.
      rw [bind_assoc]
      refine .bind_same _ fun rest => ?_
      refine .bind (Scan.tracks_pass levels rest) ?_
      rintro ⟨-, rest⟩ ⟨v, _⟩ ⟨-, rfl⟩
      exact ⟨⟨Json.keys_treeFields _, entry_of_ne hs.backend hbackend,
        entry_of_ne hs.metadataColumn hmetadata, entry_of_ne hs.specificColumns hspecific⟩, rfl⟩

/-! ### Sections as arrays -/

/-- One item of the array form, given what comes of the rest. An array
in a file has all its items. -/
theorem tracks_nextSlot {item : Scan α} {levels : Nat}
    (h : ∀ cs, Tracks True (Abreast fun a v => R a v.tree) (item cs) (Scan.value levels cs))
    {T : Section × List Char → List Json × List Char → Prop}
    {next : Option α × List Char → Except Json.Failure (Section × List Char)} {seen : List Json}
    (hnext : ∀ x v rest limit, Slot .inFile R x v.tree →
      Tracks True T (next (x, rest))
        (Scan.itemsFrom (Scan.value levels) limit false (v :: seen) rest))
    (first : Bool) (count limit : Nat) (s : Section) (cs : List Char) :
    Tracks True T
      (Scan.nextItem first cs >>= fun (more, cs) =>
        if !more then cutShort .inFile count s cs else slot .inFile item cs >>= next)
      (Scan.itemsFrom (Scan.value levels) limit first seen cs) := by
  cases limit with
  | zero => exact .of_mayFail trivial _ _
  | succ limit =>
      refine .bind_same _ ?_
      rintro ⟨more, cs⟩
      cases more with
      | false => trivial
      | true =>
          refine .bind (Scan.tracks_optional h cs) ?_
          rintro ⟨x, rest⟩ ⟨v, _⟩ ⟨hx, rfl⟩
          exact hnext x v rest limit hx

/-- The closing bracket of the array form. -/
theorem tracks_arrayEnd {levels : Nat} {seen : List Json} (limit : Nat) (s : Section)
    (cs : List Char) :
    Tracks True (fun x y => x.1 = s ∧ y = (seen.reverse, x.2)) (arrayEnd s cs)
      (Scan.itemsFrom (Scan.value levels) limit false seen cs) := by
  unfold arrayEnd
  split
  · trivial
  · next rest hcs =>
      cases limit with
      | zero => trivial
      | succ limit =>
          simp only [Scan.itemsFrom, Scan.nextItem, hcs, except_ok_bind]
          exact ⟨rfl, rfl⟩
  · split <;> trivial
  · trivial

/-- The array form of a section. -/
theorem tracks_array (levels : Nat) (cs : List Char) :
    Tracks True (Abreast fun s vs => WrittenAs s (Json.array vs).tree) (array .inFile cs)
      (Scan.items (Scan.value levels) cs) := by
  -- One slot after the other, each with what has been read so far; the end comes after the third.
  refine tracks_nextSlot (Backend.tracks_scan levels) ?_ true 0 _ {} cs
  intro backend v rest limit hbackend
  refine tracks_nextSlot (Scan.tracks_text levels) ?_ false 1 limit _ rest
  intro column v' rest limit hcolumn
  refine tracks_nextSlot (Scan.tracks_texts levels) ?_ false 2 limit _ rest
  intro columns v'' rest limit hcolumns
  refine (tracks_arrayEnd limit _ rest).mono ?_
  rintro ⟨_, rest⟩ _ ⟨rfl, rfl⟩
  exact ⟨.array ⟨by simp, .once hbackend, .once hcolumn, .once hcolumns⟩, rfl⟩

/-- A section is read from either of its forms beside the full reader. -/
theorem tracks_scan (levels : Nat) (cs : List Char) :
    Tracks True (Abreast fun s v => WrittenAs s v.tree) (scan .inFile cs)
      (Scan.value levels cs) := by
  unfold scan
  split
  · next rest hcs =>
      exact Scan.tracks_value_of_array hcs (fun levels => tracks_array levels rest) levels
  · next rest hcs =>
      refine Scan.tracks_value_of_object hcs (fun levels => ?_) levels
      refine (Scan.tracks_entries (fun s fields key cs hs => tracks_member levels hs key cs)
        (saidBy_nil .inFile) rest).mono ?_
      rintro ⟨s, rest⟩ ⟨fields, _⟩ ⟨hs, rfl⟩
      exact ⟨.object hs, rfl⟩
  · trivial

end Settings.Section

/-! ### Settings files -/

namespace Settings.Contents

/-- A key that means nothing leaves the section alone. -/
theorem filter_addUnknown (contents : Contents) (key : String) :
    (contents.addUnknown key).filter = contents.filter := by
  unfold addUnknown
  split <;> rfl

/-- One entry of a settings file. The values that are not used are read
in the same way on both sides. -/
theorem tracks_member {contents : Contents} {fields : Fields}
    (h : Entry .inFile Section.WrittenAs contents.filter
      (valuesOf "filter" (Json.treeFields fields)))
    (key : String) (cs : List Char) :
    Tracks True
      (Abreast fun contents fields =>
        Entry .inFile Section.WrittenAs contents.filter
          (valuesOf "filter" (Json.treeFields fields)))
      (member contents key cs) (Scan.member (Scan.value innerNesting) fields key cs) := by
  unfold member Scan.member
  split
  · next hkey =>
      subst hkey
      cases hseen : contents.filter with
      | some => trivial
      | none =>
          refine .bind_same _ fun rest => ?_
          refine .bind (Scan.tracks_optional (Section.tracks_scan innerNesting) rest) ?_
          rintro ⟨x, rest⟩ ⟨v, _⟩ ⟨hx, rfl⟩
          exact ⟨Section.entry_self (hseen ▸ h) hx, rfl⟩
  · next hkey =>
      refine .bind_same _ fun rest => ?_
      refine .bind_same _ ?_
      rintro ⟨v, rest⟩
      refine ⟨?_, rfl⟩
      show Entry .inFile Section.WrittenAs (contents.addUnknown key).filter _
      rw [filter_addUnknown]
      exact Section.entry_of_ne h hkey

/-- A settings file is read beside the full reader. -/
theorem tracks_scan (cs : List Char) :
    Tracks True (Abreast fun contents v => WrittenAs contents v.tree) (scan cs)
      (Scan.value Json.maxNesting cs) := by
  unfold scan
  split
  · next rest hcs =>
      rw [show Json.maxNesting = innerNesting + 1 from rfl, Scan.value_of_object hcs]
      refine .map_right ((Scan.tracks_entries (fun contents fields key cs h =>
        tracks_member h key cs) .absent rest).mono ?_)
      rintro ⟨contents, rest⟩ ⟨fields, _⟩ ⟨h, rfl⟩
      exact ⟨.object h, rfl⟩
  · trivial

/-- What is read of a settings file is what its document says. -/
theorem saidIn_of_read {text : String} {contents : Contents} {doc : Json}
    (h : read text = .ok contents) (hdoc : Json.read text = .ok doc) :
    contents.layoutSection.SaidIn doc.tree := by
  obtain ⟨rest, hvalue, -⟩ := (Json.read_eq_ok_iff text doc).mp hdoc
  rw [read, except_mapError_eq_ok_iff, except_bind_eq_ok_iff] at h
  obtain ⟨⟨found, rest'⟩, hscan, hend⟩ := h
  obtain ⟨⟨⟩, -, hfound⟩ := except_bind_eq_ok_iff.mp hend
  cases hfound
  have htracks := tracks_scan text.toList
  rw [hscan, hvalue] at htracks
  exact saidIn_of_writtenAs htracks.1

end Settings.Contents

end FilterSql
