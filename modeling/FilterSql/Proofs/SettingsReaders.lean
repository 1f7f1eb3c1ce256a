import FilterSql.Proofs.LayoutText
import FilterSql.Proofs.Loading

/-!
# `FilterSql.Proofs.SettingsReaders`: one layout, two places

A layout can be a text of its own, or it can be the section of a settings
file. The two are read by different routes: one fills in the usual values
at once, the other remembers what is missing, lets `null` stand for it
and fills the gaps in later, below what the user asks for. For an object
without such a `null` the routes come to the same layout, or both fail.

What the object says is stated with its entries (`Layout.DescribedBy`):
each known key is there once, with a value of the right kind, or it is
missing and the usual value stands in. Everything else in the object has
to be spelled correctly and is ignored.

* `Settings.Section.saidBy_form_iff`: without a `null` both places say the
  same.
* `Settings.readers_agree`: the two routes.
-/

set_option autoImplicit false

namespace FilterSql

open Json (Scan Tree)
open Json.Grammar
open Json.Tree (valuesOf)
open Sql (Backend)

/-! ### What an object says -/

namespace Settings

/-- What the values under a key come to: nothing and then the usual
value stands in, or one value of the right kind. -/
inductive Given {α : Type} (R : α → Tree → Prop) (usual : α) : List Tree → α → Prop where
  | missing : Given R usual [] usual
  | once {v : Tree} {a : α} (h : R a v) : Given R usual [v] a

end Settings

open Settings (Given)

/-- The layout that an object with these entries describes. -/
structure Layout.DescribedBy (layout : Layout) (es : Tree.Entries) : Prop where
  keys : ∀ entry ∈ es, entry.1 ≠ none
  backend : Given Backend.WrittenAs .hana (valuesOf "backend" es) layout.backend
  metadataColumn : Given Tree.IsText "VEC_META" (valuesOf "metadata_column" es) layout.metadataColumn
  specificColumns : Given Tree.IsTexts [] (valuesOf "specific_columns" es) layout.specificColumns

namespace Settings

/-- The usual value stands in where nothing was read. -/
theorem given_iff {α : Type} {R : α → Tree → Prop} {usual a : α} {vs : List Tree} :
    Given R usual vs a ↔ ∃ seen, Entry .alone R seen vs ∧ a = seen.join.getD usual := by
  constructor
  · rintro (_ | h)
    · exact ⟨none, .absent, rfl⟩
    · exact ⟨some (some a), .once (.given h), rfl⟩
  · rintro ⟨_, _ | hslot, rfl⟩
    · exact .missing
    · obtain ⟨a, ha, rfl⟩ := (slot_iff (.inl rfl)).mp hslot
      exact .once ha

/-- The keys that mean something. -/
def Section.keys : List String := ["backend", "metadata_column", "specific_columns"]

/-- A value is found under its key. -/
theorem mem_valuesOf {key : String} {v : Tree} {es : Tree.Entries} (h : v ∈ valuesOf key es) :
    (some key, v) ∈ es := by
  obtain ⟨⟨k, w⟩, hmem, hfound⟩ := List.mem_filterMap.mp h
  split at hfound
  · next hk =>
      cases hk
      cases hfound
      exact hmem
  · cases hfound

/-- Only a `null` makes a difference. -/
theorem entry_form_iff {α : Type} {R : α → Tree → Prop} {seen : Option (Option α)} {vs : List Tree}
    (hnull : .null ∉ vs) (form : Form) : Entry form R seen vs ↔ Entry .alone R seen vs := by
  have hslot : ∀ {x v}, v ∈ vs → (Slot form R x v ↔ Slot .alone R x v) := by
    intro x v hv
    have hne : v ≠ .null := by
      rintro rfl
      exact hnull hv
    rw [slot_iff (.inr hne), slot_iff (.inl rfl)]
  constructor
  · rintro (_ | h)
    · exact .absent
    · exact .once ((hslot (.head _)).mp h)
  · rintro (_ | h)
    · exact .absent
    · exact .once ((hslot (.head _)).mpr h)

/-- Without a `null` under a known key an object says the same in both
places. -/
theorem Section.saidBy_form_iff {s : Section} {es : Tree.Entries}
    (hnull : ∀ key ∈ keys, (some key, .null) ∉ es) (form : Form) :
    s.SaidBy form es ↔ s.SaidBy .alone es := by
  have hvalues : ∀ key ∈ keys, Tree.null ∉ valuesOf key es := fun key hkey hmem =>
    hnull key hkey (mem_valuesOf hmem)
  have hbackend := hvalues "backend" (by decide)
  have hcolumn := hvalues "metadata_column" (by decide)
  have hcolumns := hvalues "specific_columns" (by decide)
  constructor
  · rintro ⟨hkeys, h₁, h₂, h₃⟩
    exact ⟨hkeys, (entry_form_iff hbackend form).mp h₁, (entry_form_iff hcolumn form).mp h₂,
      (entry_form_iff hcolumns form).mp h₃⟩
  · rintro ⟨hkeys, h₁, h₂, h₃⟩
    exact ⟨hkeys, (entry_form_iff hbackend form).mpr h₁, (entry_form_iff hcolumn form).mpr h₂,
      (entry_form_iff hcolumns form).mpr h₃⟩

/-- An object inside a larger text, with blanks in front of it. -/
theorem Section.scan_eq_ok_iff {es : Tree.Entries} {bs cs : List Char} (hbs : Blanks bs)
    (h : Spells (.entries true es) cs) (hnull : ∀ key ∈ keys, (some key, .null) ∉ es) (form : Form)
    {s : Section} {rest after : List Char} :
    scan form (bs ++ '\x7b' :: (cs ++ rest)) = .ok (s, after) ↔
      s.SaidBy .alone es ∧ after = rest := by
  simp only [scan, Scan.skipSpaces_blanks_cons hbs (c := '\x7b') rfl]
  exact (yields_object h form).congr (fun s => saidBy_form_iff hnull form) rest s after

end Settings

open Settings (Section)

/-! ### The two places -/

/-- An object describes a layout by way of the section that it says. -/
theorem Layout.describedBy_iff {layout : Layout} {es : Tree.Entries} :
    layout.DescribedBy es ↔ ∃ s : Section, s.SaidBy .alone es ∧ s.toLayout = layout := by
  constructor
  · rintro ⟨hkeys, hbackend, hcolumn, hcolumns⟩
    obtain ⟨backend, hbackend, hbackend'⟩ := Settings.given_iff.mp hbackend
    obtain ⟨column, hcolumn, hcolumn'⟩ := Settings.given_iff.mp hcolumn
    obtain ⟨columns, hcolumns, hcolumns'⟩ := Settings.given_iff.mp hcolumns
    refine ⟨⟨backend, column, columns⟩, ⟨hkeys, hbackend, hcolumn, hcolumns⟩, ?_⟩
    cases layout
    simp_all [Section.toLayout]
  · rintro ⟨s, ⟨hkeys, hbackend, hcolumn, hcolumns⟩, rfl⟩
    exact ⟨hkeys, Settings.given_iff.mpr ⟨_, hbackend, rfl⟩, Settings.given_iff.mpr ⟨_, hcolumn, rfl⟩,
      Settings.given_iff.mpr ⟨_, hcolumns, rfl⟩⟩

section

variable {σ : Type} {entry : σ → String → Scan σ} {cs rest : List Char}

/-- The first entry of an object, and then the others. -/
theorem Json.Scan.entries_of_key {state : σ} {key : String}
    (hkey : nextKey true cs = .ok (some key, rest)) :
    entries entry state cs
      = (entry state key rest >>= fun (state, rest) =>
          entriesFrom entry cs.length false state rest) := by
  simp only [entries, entriesFrom, hkey, except_ok_bind]

/-- The end of an object. -/
theorem Json.Scan.entriesFrom_of_end {first : Bool} (hend : nextKey first cs = .ok (none, rest))
    {limit : Nat} (hlimit : 0 < limit) (state : σ) :
    entriesFrom entry limit first state cs = .ok (state, rest) := by
  obtain ⟨limit, rfl⟩ := Nat.exists_eq_add_of_lt hlimit
  simp only [entriesFrom, hend, except_ok_bind]

end

section

variable {es : Tree.Entries} {text : String} (htext : IsDocument (.object es) text)
  (hnull : ∀ key ∈ Section.keys, (some key, .null) ∉ es)

include htext hnull

/-- A text of its own. -/
theorem Layout.read_eq_ok_iff {layout : Layout} :
    Layout.read text = .ok layout ↔ layout.DescribedBy es := by
  obtain ⟨bs, cs, bs', hbs, h, hbs', htext⟩ := htext.object
  have hend : Scan.skipSpaces bs' = [] := by
    have hskip := Scan.skipSpaces_blanks hbs' []
    rwa [List.append_nil] at hskip
  rw [Layout.read, except_mapError_eq_ok_iff, htext, Layout.describedBy_iff]
  simp only [except_bind_eq_ok_iff, Prod.exists, Section.scan_eq_ok_iff hbs h hnull]
  constructor
  · rintro ⟨s, _, ⟨hs, rfl⟩, -, -, ⟨⟩⟩
    exact ⟨s, hs, rfl⟩
  · rintro ⟨s, hs, rfl⟩
    exact ⟨s, _, ⟨hs, rfl⟩, (), Json.Scan.ending_eq_ok_iff.mpr hend, rfl⟩

end

namespace Settings

/-- A settings file with this section and nothing else. -/
def fileWith (text : String) : String :=
  "\x7b\"filter\": " ++ text ++ "\x7d"

/-- The characters of such a file. -/
theorem toList_fileWith (text : String) :
    (fileWith text).toList
      = '\x7b' :: ((Json.quoted "filter").toList ++ (':' :: ' ' :: (text.toList ++ ['\x7d']))) := by
  have hopen : "\x7b\"filter\": ".toList = '\x7b' :: ((Json.quoted "filter").toList ++ [':', ' ']) :=
    rfl
  have hclose : "\x7d".toList = ['\x7d'] := rfl
  rw [fileWith, String.toList_append, String.toList_append, hopen, hclose]
  simp only [List.cons_append, List.append_assoc, List.nil_append]

/-- The entry for the section. -/
theorem Contents.member_filter {bs : List Char} (hbs : Blanks bs) (cs : List Char) :
    Contents.member {} "filter" (':' :: ' ' :: (bs ++ '\x7b' :: cs))
      = (Section.scan .inFile ('\x7b' :: cs) >>= fun (s, rest) =>
          .ok ({ filter := some (some s) }, rest)) := by
  have hcolon : Scan.colon (':' :: ' ' :: (bs ++ '\x7b' :: cs)) = .ok (' ' :: (bs ++ '\x7b' :: cs)) :=
    rfl
  have hblanks : Blanks (' ' :: bs) := List.forall_mem_cons.mpr ⟨.head _, hbs⟩
  have hskip : Scan.skipSpaces (' ' :: (bs ++ '\x7b' :: cs)) = '\x7b' :: cs :=
    Scan.skipSpaces_blanks_cons hblanks rfl cs
  have hoptional : Scan.optional (Section.scan .inFile) (' ' :: (bs ++ '\x7b' :: cs))
      = (Section.scan .inFile ('\x7b' :: cs) >>= fun (s, rest) => .ok (some s, rest)) := by
    rw [Scan.optional, hskip]
    rfl
  rw [Contents.member, if_pos rfl, hcolon]
  simp only [Option.isSome_none, Bool.false_eq_true, if_false, except_ok_bind, hoptional, bind_assoc]

section

variable {es : Tree.Entries} {text : String} (htext : IsDocument (.object es) text)
  (hnull : ∀ key ∈ Section.keys, (some key, .null) ∉ es)

include htext hnull

/-- The section of a settings file. -/
theorem Contents.read_fileWith_eq_ok_iff {contents : Contents} :
    Contents.read (fileWith text) = .ok contents ↔
      ∃ s : Section, s.SaidBy .alone es ∧ contents = { filter := some (some s) } := by
  obtain ⟨bs, cs, bs', hbs, h, hbs', htext⟩ := htext.object
  have hscan : ∀ cs, Contents.scan ('\x7b' :: cs) = Scan.entries Contents.member {} cs := fun cs => rfl
  have hlength : ∀ cs, 0 < ((Json.quoted "filter").toList ++ cs).length := fun cs => by
    rw [Json.toList_quoted_append]
    exact Nat.succ_pos _
  have hend : Scan.nextKey false (bs' ++ ['\x7d']) = .ok (none, []) :=
    Scan.nextKey_close false (Scan.skipSpaces_blanks_cons hbs' rfl [])
  have hsection : ∀ s after,
      Section.scan .inFile ('\x7b' :: (cs ++ (bs' ++ ['\x7d']))) = .ok (s, after) ↔
        s.SaidBy .alone es ∧ after = bs' ++ ['\x7d'] := fun s after =>
    Section.scan_eq_ok_iff blanks_nil h hnull .inFile
  rw [Contents.read, except_mapError_eq_ok_iff, toList_fileWith, htext, hscan,
    Json.Scan.entries_of_key (Scan.nextKey_quoted ..)]
  simp only [List.append_assoc, List.cons_append, Contents.member_filter hbs, except_bind_eq_ok_iff,
    Prod.exists, hsection]
  constructor
  · rintro ⟨contents', after, ⟨_, _, ⟨s, _, ⟨hs, rfl⟩, ⟨⟩⟩, hrun⟩, -, -, ⟨⟩⟩
    rw [Json.Scan.entriesFrom_of_end hend (hlength _)] at hrun
    cases hrun
    exact ⟨s, hs, rfl⟩
  · rintro ⟨s, hs, rfl⟩
    exact ⟨_, [], ⟨_, _, ⟨s, _, ⟨hs, rfl⟩, rfl⟩, Json.Scan.entriesFrom_of_end hend (hlength _) _⟩, (),
      rfl, rfl⟩

end

/-- Take a text that is one object, in which no known key has the value
`null`, and a settings file with this text as its section. A user who
asks for nothing but that file has a layout loaded exactly if it is read
from the text alone and passes its check. Both are the layout that the
entries of the object describe: a missing key stands for the usual value,
entries under other keys are ignored, and there is no layout at all if a
known key is repeated or its value is of another kind. -/
theorem readers_agree {es : Tree.Entries} {text : String} (htext : IsDocument (.object es) text)
    (hnull : ∀ key ∈ Section.keys, (some key, .null) ∉ es) {files : Files} {path : String}
    (hfile : files.text path = .ok (fileWith text)) (layout : Layout) :
    ((load { config := some path } files).outcome = .ok layout ↔
      Layout.read text = .ok layout ∧ layout.check = .ok ()) ∧
    (Layout.read text = .ok layout ↔ layout.DescribedBy es) := by
  refine ⟨?_, Layout.read_eq_ok_iff htext hnull⟩
  rw [load_eq_ok_iff, Layout.read_eq_ok_iff htext hnull, Layout.describedBy_iff]
  constructor
  · rintro ⟨s, hsection, hlayered, hcheck⟩
    cases hsection with
    | noFile hnone => cases hnone
    | file hpath hcontent hread =>
        cases hpath
        cases hcontent.symm.trans hfile
        obtain ⟨s, hs, rfl⟩ := (Contents.read_fileWith_eq_ok_iff htext hnull).mp hread
        exact ⟨⟨s, hs, (layered_iff.mp hlayered).symm⟩, hcheck⟩
  · rintro ⟨⟨s, hs, rfl⟩, hcheck⟩
    have hread := (Contents.read_fileWith_eq_ok_iff htext hnull).mpr ⟨s, hs, rfl⟩
    exact ⟨s, .file rfl hfile hread, layered_iff.mpr rfl, hcheck⟩

/-- An object with the long form of a backend, an unknown key and a key
that is missing. -/
def partialText : String :=
  "\x7b\"backend\": \x7b\"duckdb\": null\x7d, \"note\": [-1.5e+3, true], \"specific_columns\": [\"a\"]\x7d"

def partialEntries : Tree.Entries :=
  [(some "backend", .object [(some "duckdb", .null)]),
    (some "note", .array [.numeral "-1.5e+3".toList, .bool true]),
    (some "specific_columns", .array [.string (some "a")])]

/-- The text is spelled correctly. -/
theorem isDocument_partialText : IsDocument (.object partialEntries) partialText := by
  have name : ∀ s : String, s.toList.all isPlain = true → Characters s.toList (s.toList.map .char) :=
    fun s => .of_plain
  have hnone := blanks_nil
  have hspace : Blanks [' '] := by simp [Blanks]
  have hdigits : Digits [] := by simp [Digits]
  have hwhole : Whole ['1'] := .digits rfl (by decide) hdigits
  have hfraction : Fraction ['.', '5'] := .digits rfl hdigits
  have hexponent : Exponent ['e', '+', '3'] := .digits (.inl rfl) (.inr (.inl rfl)) rfl hdigits
  have hnumeral : Numeral "-1.5e+3".toList := .mk (.inr rfl) hwhole hfraction hexponent
  have hnull : Spells (.value .null) null := .word (.head _)
  have htrue : Spells (.value (.bool true)) ['t', 'r', 'u', 'e'] := .word (.tail _ (.head _))
  have hbackend : Spells (.value (.object [(some "duckdb", .null)])) "\x7b\"duckdb\": null\x7d".toList :=
    .object (.entry (.start hnone) (name "duckdb" rfl) hnone hspace hnull
      (.entriesEnd false hnone))
  have hnote : Spells (.value (.array [.numeral "-1.5e+3".toList, .bool true]))
      "[-1.5e+3, true]".toList :=
    .array (.item (.start hnone) (.numeral hnumeral)
      (.item (.comma hnone hspace) htrue (.itemsEnd false hnone)))
  have hcolumns : Spells (.value (.array [.string (some "a")])) "[\"a\"]".toList :=
    .array (.item (.start hnone) (.string (name "a" rfl)) (.itemsEnd false hnone))
  have hentries : Spells (.entries true partialEntries) _ :=
    .entry (.start hnone) (name "backend" rfl) hnone hspace hbackend
      (.entry (.comma hnone hspace) (name "note" rfl) hnone hspace hnote
        (.entry (.comma hnone hspace) (name "specific_columns" rfl) hnone hspace hcolumns
          (.entriesEnd false hnone)))
  exact .mk hnone (.object hentries) hnone (by simp [partialText])

/-- Both routes find the backend and fill in the missing column. -/
theorem readers_agree_partial :
    Layout.read partialText = .ok ⟨.duckdb, "VEC_META", ["a"]⟩ ∧
    (load { config := some "own.json" }
      (.ofTree [(["own.json"], .file (.text (fileWith partialText)))])).outcome
        = .ok ⟨.duckdb, "VEC_META", ["a"]⟩ := by
  have hnull : ∀ key ∈ Section.keys, (some key, .null) ∉ partialEntries := by
    simp [Section.keys, partialEntries]
  have hagree := readers_agree isDocument_partialText hnull
    (show Files.text (.ofTree [(["own.json"], .file (.text (fileWith partialText)))]) "own.json" = _
      from rfl) ⟨.duckdb, "VEC_META", ["a"]⟩
  have hdescribed : Layout.DescribedBy ⟨.duckdb, "VEC_META", ["a"]⟩ partialEntries :=
    ⟨by simp [partialEntries], .once (.key .duckdb), .missing, .once rfl⟩
  have hread := hagree.2.mpr hdescribed
  exact ⟨hread, hagree.1.mpr ⟨hread, rfl⟩⟩

end Settings

end FilterSql
