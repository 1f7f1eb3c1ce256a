import FilterSql.Proofs.EntryPoints
import FilterSql.Proofs.Json.RoundTrip
import FilterSql.Settings.Section

/-!
# `FilterSql.Proofs.LayoutText`: a stored layout is read as it was

A layout is stored as the compact text of a JSON object with three
entries. It is read back by a reader of its own, which looks for names of
backends and for strings and fills in usual values for what it does not
find. So an entry that is written in a form that the reader does not
know, or under another key, would be an error or, worse, be replaced
without a word. Neither happens, whatever the columns are called.

* `Json.Scan.text_quoted`, `Json.Scan.texts_compact`, `Sql.Backend.scan_name`:
  the three kinds of values.
* `Layout.read_compact`: a whole layout.
-/

set_option autoImplicit false

namespace FilterSql

open Sql (Backend)

namespace Json.Scan

/-! ### Values -/

/-- A string that is written starts with its quote. -/
theorem skipSpaces_quoted (s : String) (rest : List Char) :
    skipSpaces ((quoted s).toList ++ rest) = '"' :: (s.toList.flatMap escaped ++ '"' :: rest) := by
  rw [toList_quoted_append, skipSpaces_cons rfl]

/-- A string is read as it is written. -/
theorem text_quoted (s : String) (rest : List Char) :
    text ((quoted s).toList ++ rest) = .ok (s, rest) := by
  simp only [text, skipSpaces_quoted, string_escaped]

/-- The strings after the first, up to the closing bracket. The induction
is on the strings, and the limit goes down with them. -/
theorem itemsFrom_compactItems {limit : Nat} {names : List String} (hlimit : names.length < limit)
    (seen : List String) (rest : List Char) :
    itemsFrom text limit false seen ((compactItems (names.map .string)).toList ++ rest)
      = .ok (seen.reverse ++ names, rest) := by
  induction names generalizing limit seen with
  | nil =>
      obtain ⟨limit, rfl⟩ := Nat.exists_eq_add_of_lt hlimit
      have hclose : nextItem false (']' :: rest) = .ok (false, rest) := nextItem_close false rfl
      have htext : (compactItems []).toList ++ rest = ']' :: rest := by simp [compactItems]
      rw [List.map_nil, htext, itemsFrom, hclose]
      simp
  | cons name names ih =>
      obtain ⟨limit, rfl⟩ := Nat.exists_eq_add_of_lt hlimit
      have htext : (compactItems ((name :: names).map .string)).toList ++ rest
          = ',' :: ((quoted name).toList ++ ((compactItems (names.map .string)).toList ++ rest)) := by
        simp [compactItems, compact]
      rw [htext, itemsFrom, nextItem_comma (skipSpaces_quoted name _) (by decide),
        ← toList_quoted_append, except_ok_bind]
      simp only [if_true, text_quoted, except_ok_bind]
      rw [ih (by rw [List.length_cons]; omega), List.reverse_cons, List.append_assoc,
        List.singleton_append]

/-- Every name takes a character at least. -/
theorem length_le_compactItems (names : List String) :
    names.length ≤ (compactItems (names.map .string)).toList.length := by
  induction names with
  | nil => exact Nat.zero_le _
  | cons name names ih =>
      simp only [List.map_cons, compactItems, String.toList_append, List.length_append,
        List.length_cons]
      have hcomma : ",".toList.length = 1 := rfl
      omega

/-- A list of strings is read as it is written, in order and with all
repetitions. -/
theorem texts_compact (names : List String) (rest : List Char) :
    texts ((ofStrings names).compact.toList ++ rest) = .ok (names, rest) := by
  cases names with
  | nil =>
      have htext : (ofStrings []).compact.toList ++ rest = '[' :: ']' :: rest := by
        simp [ofStrings, compact]
      rw [htext]
      rfl
  | cons name names =>
      have htext : (ofStrings (name :: names)).compact.toList ++ rest
          = '[' :: ((quoted name).toList ++ ((compactItems (names.map .string)).toList ++ rest)) := by
        simp [ofStrings, compact]
      have hopen : skipSpaces ('[' :: ((quoted name).toList ++
          ((compactItems (names.map .string)).toList ++ rest))) = _ := skipSpaces_cons rfl _
      -- The first string has no comma in front and is read here.
      rw [htext]
      simp only [texts, hopen]
      rw [items, itemsFrom, nextItem_first (skipSpaces_quoted name _) (by decide),
        ← toList_quoted_append, except_ok_bind]
      simp only [if_true, text_quoted, except_ok_bind]
      refine itemsFrom_compactItems ?_ [name] rest
      have hlength := length_le_compactItems names
      have hquoted : 2 ≤ (quoted name).toList.length := by simp [quoted]
      simp only [List.length_append]
      omega

end Json.Scan

/-- A backend is read as its name is written. -/
theorem Sql.Backend.scan_name (backend : Backend) (rest : List Char) :
    Backend.scan ((Json.quoted backend.name).toList ++ rest) = .ok (backend, rest) := by
  have hnamed : ∀ rest, Backend.named backend.name rest = .ok backend := by
    cases backend <;> exact fun _ => rfl
  simp only [Backend.scan, Json.Scan.skipSpaces_quoted, Json.Scan.string_escaped, except_ok_bind,
    hnamed]

/-! ### Entries -/

namespace Json.Scan

variable {σ : Type} {entry : σ → String → Scan σ} {state state' : σ} {key : String}
  {cs rest : List Char}

/-- One entry, and then the others. -/
theorem entriesFrom_of_key (limit : Nat) {first : Bool} {after : List Char}
    (hkey : nextKey first cs = .ok (some key, after))
    (hentry : entry state key after = .ok (state', rest)) :
    entriesFrom entry (limit + 1) first state cs = entriesFrom entry limit false state' rest := by
  simp only [entriesFrom, hkey, except_ok_bind, hentry]

/-- The first key, as it is written. -/
theorem nextKey_quoted (key : String) (cs : List Char) :
    nextKey true ((quoted key).toList ++ cs) = .ok (some key, cs) := by
  rw [nextKey_of_string (skipSpaces_quoted key cs), string_escaped, except_ok_bind]

/-- Another key, as it is written. -/
theorem nextKey_comma_quoted (key : String) (cs : List Char) :
    nextKey false (',' :: ((quoted key).toList ++ cs)) = .ok (some key, cs) := by
  rw [nextKey_comma (skipSpaces_quoted key cs), string_escaped, except_ok_bind]

end Json.Scan

namespace Settings.Section

open Json (quoted)

/-- The section that holds all of a layout. -/
def ofLayout (layout : Layout) : Section where
  backend := some (some layout.backend)
  metadataColumn := some (some layout.metadataColumn)
  specificColumns := some (some layout.specificColumns)

/-- A value that was not there before is taken in. -/
theorem entry_alone {α : Type} {item : Json.Scan α} {a : α} {cs rest : List Char}
    (hitem : item cs = .ok (a, rest)) (key : String) :
    entry .alone key none item (':' :: cs) = .ok (some a, rest) := by
  have hcolon : Json.Scan.colon (':' :: cs) = .ok cs := rfl
  simp only [entry, Option.isSome_none, Bool.false_eq_true, if_false, hcolon, except_ok_bind, slot,
    hitem]

section

variable {cs rest : List Char}

/-- The entry of the backend is taken in. -/
theorem member_backend {backend : Backend} (h : Backend.scan cs = .ok (backend, rest)) :
    member .alone {} "backend" (':' :: cs) = .ok ({ backend := some (some backend) }, rest) := by
  rw [member, if_pos rfl, entry_alone h, except_ok_bind]

/-- Behind it, the entry of the metadata column. -/
theorem member_metadataColumn {column : String} (h : Json.Scan.text cs = .ok (column, rest))
    (backend : Backend) :
    member .alone { backend := some (some backend) } "metadata_column" (':' :: cs)
      = .ok ({ backend := some (some backend), metadataColumn := some (some column) }, rest) := by
  rw [member, if_neg (by decide), if_pos rfl, entry_alone h, except_ok_bind]

/-- Behind both, the entry of the dedicated columns. -/
theorem member_specificColumns {columns : List String} (h : Json.Scan.texts cs = .ok (columns, rest))
    (backend : Backend) (column : String) :
    member .alone { backend := some (some backend), metadataColumn := some (some column) }
        "specific_columns" (':' :: cs)
      = .ok (ofLayout ⟨backend, column, columns⟩, rest) := by
  rw [member, if_neg (by decide), if_neg (by decide), if_pos rfl, entry_alone h, except_ok_bind,
    ofLayout]

end

/-- The text of a layout after its opening brace. -/
def textOf (layout : Layout) : List Char :=
  (quoted "backend").toList ++ (':' :: ((quoted layout.backend.name).toList ++
    (',' :: ((quoted "metadata_column").toList ++ (':' :: ((quoted layout.metadataColumn).toList ++
      (',' :: ((quoted "specific_columns").toList ++
        (':' :: ((Json.ofStrings layout.specificColumns).compact.toList ++ ['\x7d']))))))))))

/-- The text of a layout after its opening brace. -/
theorem toList_compact (layout : Layout) : layout.toJson.compact.toList = '\x7b' :: textOf layout := by
  simp [Layout.toJson, Json.compact, Json.compactFields, Json.ofStrings, textOf]

/-- The object of a layout, entry by entry. -/
theorem entriesFrom_textOf (layout : Layout) (limit : Nat) :
    Json.Scan.entriesFrom (member .alone) (limit + 4) true {} (textOf layout)
      = .ok (ofLayout layout, []) := by
  rw [textOf, Json.Scan.entriesFrom_of_key (limit + 3) (Json.Scan.nextKey_quoted ..)
      (member_backend (Backend.scan_name ..)),
    Json.Scan.entriesFrom_of_key (limit + 2) (Json.Scan.nextKey_comma_quoted ..)
      (member_metadataColumn (Json.Scan.text_quoted ..) _),
    Json.Scan.entriesFrom_of_key (limit + 1) (Json.Scan.nextKey_comma_quoted ..)
      (member_specificColumns (Json.Scan.texts_compact ..) _ _)]
  rfl

/-- A layout that is written is read as it was. -/
theorem scan_compact (layout : Layout) :
    scan .alone layout.toJson.compact.toList = .ok (ofLayout layout, []) := by
  -- Three entries and the closing brace take four steps.
  have hlength : 3 ≤ (textOf layout).length := by
    simp only [textOf, List.length_append, List.length_cons]
    omega
  have hopen : Json.Scan.skipSpaces ('\x7b' :: textOf layout) = '\x7b' :: textOf layout :=
    Json.Scan.skipSpaces_cons rfl _
  obtain ⟨limit, hlimit⟩ := Nat.exists_eq_add_of_le' hlength
  rw [toList_compact]
  simp only [scan, hopen, Json.Scan.entries, hlimit]
  exact entriesFrom_textOf layout limit

end Settings.Section

/-! ### Layouts -/

namespace Layout

/-- A layout is read as it was stored. -/
theorem read_compact (layout : Layout) : read layout.toJson.compact = .ok layout := by
  rw [read, Settings.Section.scan_compact]
  rfl

/-- Storing a layout and reading it again changes neither the layout nor
what is stored. Nothing is replaced by a usual value on the way, and the
columns keep their order and their repetitions. -/
theorem survives_storage (layout : Layout) :
    read layout.toJson.compact = .ok layout ∧
      (read layout.toJson.compact).map (fun again => again.toJson.compact)
        = .ok layout.toJson.compact := by
  refine ⟨read_compact layout, ?_⟩
  rw [read_compact]
  rfl

example : (Layout.mk .duckdb "a\"\\\n" ["é", "", ""]).toJson.compact
    = "\x7b\"backend\":\"duckdb\",\"metadata_column\":\"a\\\"\\\\\\n\"," ++
      "\"specific_columns\":[\"é\",\"\",\"\"]\x7d" := by
  cbv

end Layout

end FilterSql
