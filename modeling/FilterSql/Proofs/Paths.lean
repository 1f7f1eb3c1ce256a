import FilterSql.Proofs.Names
import Mathlib.Computability.RegularExpressions

/-!
# `FilterSql.Proofs.Paths`: which keys are paths

A key without a column of its own becomes part of a string in the text of
the condition, and nothing but its form keeps it from ending that string.
The form is given in three ways, and they are the same. As a pattern, it
is an identifier followed by any number of points with identifiers behind
them. As a splitting, every piece between the points is an identifier.
As a scan, it is what `Layout.isPath` lets through.

All three are languages of `List Char`, so a character outside ASCII, a
line end behind the last identifier, or a point at either end is refused
like any other character at that place.

* `Layout.mem_pathPattern_iff`: the pattern against the splitting.
* `Layout.isPathFrom_iff`: the scan against the splitting, inside of an
  identifier and where one has to start.
* `Layout.Tidy`: what a path cannot hold.
-/

set_option autoImplicit false

namespace FilterSql

namespace Layout

/-! ### Identifiers -/

/-- The characters from `first` to `last`. -/
def charRange (first last : Char) : List Char :=
  (List.range' first.toNat (last.toNat + 1 - first.toNat)).map Char.ofNat

/-- The letters of identifiers: those of ASCII, and the underscore. -/
def letters : List Char :=
  charRange 'A' 'Z' ++ charRange 'a' 'z' ++ ['_']

/-- The digits of identifiers. -/
def digits : List Char :=
  charRange '0' '9'

/-- An identifier is a letter, and then letters and digits. -/
def IsIdentifier : List Char → Prop
  | [] => False
  | c :: cs => c ∈ letters ∧ ∀ d ∈ cs, d ∈ letters ++ digits

/-- A range that ends before the surrogates leaves out no number. -/
theorem mem_charRange_iff {first last : Char} (hlast : last.toNat < 0xD800) (c : Char) :
    c ∈ charRange first last ↔ first ≤ c ∧ c ≤ last := by
  rw [charRange, List.mem_map]
  simp only [List.mem_range'_1, Char.le_def, UInt32.le_iff_toNat_le]
  constructor
  · rintro ⟨n, hn, rfl⟩
    -- Below the surrogates every number is the code of a character.
    have hvalid : (Char.ofNat n).toNat = n := by
      rw [Char.ofNat, dif_pos (.inl (by omega))]
      rfl
    show first.toNat ≤ (Char.ofNat n).toNat ∧ (Char.ofNat n).toNat ≤ last.toNat
    omega
  · rintro ⟨hfirst, hle⟩
    have hfirst : first.toNat ≤ c.toNat := hfirst
    have hle : c.toNat ≤ last.toNat := hle
    exact ⟨c.toNat, by omega, Char.ofNat_toNat c⟩

theorem mem_letters_iff (c : Char) :
    c ∈ letters ↔ ('A' ≤ c ∧ c ≤ 'Z') ∨ ('a' ≤ c ∧ c ≤ 'z') ∨ c = '_' := by
  rw [letters, List.mem_append, List.mem_append, mem_charRange_iff (by decide),
    mem_charRange_iff (by decide), List.mem_singleton, or_assoc]

theorem mem_digits_iff (c : Char) : c ∈ digits ↔ '0' ≤ c ∧ c ≤ '9' :=
  mem_charRange_iff (by decide) c

/-- A segment starts with a letter. -/
theorem startsSegment_iff (c : Char) : startsSegment c = true ↔ c ∈ letters := by
  have hranges : startsSegment c
      = (decide ('A' ≤ c ∧ c ≤ 'Z') || ('a' ≤ c && c ≤ 'z') || c = '_') := rfl
  rw [mem_letters_iff, hranges]
  simp only [Bool.or_eq_true, Bool.and_eq_true, decide_eq_true_eq, or_assoc]

/-- A segment goes on with letters and digits. -/
theorem inSegment_iff (c : Char) : inSegment c = true ↔ c ∈ letters ++ digits := by
  have hranges : inSegment c
      = (decide ('A' ≤ c ∧ c ≤ 'Z') || ('a' ≤ c && c ≤ 'z') ||
        ('0' ≤ c && c ≤ '9') || c = '_') := rfl
  rw [List.mem_append, mem_letters_iff, mem_digits_iff, hranges]
  simp only [Bool.or_eq_true, Bool.and_eq_true, decide_eq_true_eq, or_assoc]
  rw [or_comm (a := c = '_')]

/-- Identifiers hold letters and digits only. -/
theorem IsIdentifier.forall_mem {cs : List Char} (h : IsIdentifier cs) :
    ∀ c ∈ cs, c ∈ letters ++ digits := by
  cases cs with
  | nil => exact absurd h id
  | cons c cs => exact List.forall_mem_cons.mpr ⟨List.mem_append_left _ h.1, h.2⟩

/-- No point stands inside of an identifier. -/
theorem IsIdentifier.point_not_mem {cs : List Char} (h : IsIdentifier cs) : '.' ∉ cs := by
  intro hmem
  exact absurd (h.forall_mem '.' hmem) (by decide)

/-! ### The pattern -/

open RegularExpression

/-- One of the given characters. -/
def oneOf (cs : List Char) : RegularExpression Char :=
  cs.foldr (fun c r => char c + r) 0

/-- The pattern `[A-Za-z_][A-Za-z0-9_]*`. -/
def identifierPattern : RegularExpression Char :=
  oneOf letters * (oneOf (letters ++ digits)).star

/-- The pattern `[A-Za-z_][A-Za-z0-9_]*(\.[A-Za-z_][A-Za-z0-9_]*)*`. -/
def pathPattern : RegularExpression Char :=
  identifierPattern * (char '.' * identifierPattern).star

theorem mem_char_iff (c : Char) (x : List Char) : x ∈ (char c).matches' ↔ x = [c] :=
  Iff.rfl

/-- One of several characters matches each of them. -/
theorem mem_oneOf_iff (cs x : List Char) :
    x ∈ (oneOf cs).matches' ↔ ∃ c ∈ cs, x = [c] := by
  induction cs with
  | nil => simp [oneOf]
  | cons c cs ih =>
      show x ∈ (char c + oneOf cs).matches' ↔ _
      rw [matches'_add, Language.mem_add, ih, mem_char_iff]
      simp

/-- Any number of the given characters. -/
theorem mem_star_oneOf_iff (cs x : List Char) :
    x ∈ (oneOf cs).star.matches' ↔ ∀ c ∈ x, c ∈ cs := by
  rw [matches'_star, Language.mem_kstar]
  constructor
  · rintro ⟨parts, rfl, hparts⟩ c hc
    obtain ⟨part, hpart, hcpart⟩ := List.mem_flatten.mp hc
    obtain ⟨d, hd, rfl⟩ := (mem_oneOf_iff cs part).mp (hparts part hpart)
    rwa [List.mem_singleton.mp hcpart]
  · intro hx
    refine ⟨x.map fun c => [c], (List.flatMap_singleton' x).symm, ?_⟩
    intro part hpart
    obtain ⟨c, hc, rfl⟩ := List.mem_map.mp hpart
    exact (mem_oneOf_iff cs [c]).mpr ⟨c, hx c hc, rfl⟩

/-- The pattern of identifiers matches identifiers. -/
theorem mem_identifierPattern_iff (x : List Char) :
    x ∈ identifierPattern.matches' ↔ IsIdentifier x := by
  rw [identifierPattern, matches'_mul, Language.mem_mul]
  constructor
  · rintro ⟨first, hfirst, rest, hrest, rfl⟩
    obtain ⟨c, hc, rfl⟩ := (mem_oneOf_iff _ first).mp hfirst
    exact ⟨hc, (mem_star_oneOf_iff _ rest).mp hrest⟩
  · intro hx
    cases x with
    | nil => exact absurd hx id
    | cons c cs =>
        exact ⟨[c], (mem_oneOf_iff _ _).mpr ⟨c, hx.1, rfl⟩, cs, (mem_star_oneOf_iff _ _).mpr hx.2,
          rfl⟩

/-- Pieces behind a first one, each with a separator in front of it. -/
theorem intercalate_cons_eq (c : Char) (first : List Char) (pieces : List (List Char)) :
    List.intercalate [c] (first :: pieces) = first ++ (pieces.map (c :: ·)).flatten := by
  induction pieces generalizing first with
  | nil => simp
  | cons piece pieces ih => rw [List.intercalate_cons_cons, ih]; simp

/-- Any number of identifiers, each with a point in front of it. -/
theorem mem_star_point_iff (x : List Char) :
    x ∈ (char '.' * identifierPattern).star.matches' ↔
      ∃ pieces : List (List Char), (∀ piece ∈ pieces, IsIdentifier piece) ∧
        x = (pieces.map ('.' :: ·)).flatten := by
  rw [matches'_star, Language.mem_kstar]
  constructor
  · rintro ⟨parts, rfl, hparts⟩
    induction parts with
    | nil => exact ⟨[], by simp, rfl⟩
    | cons part parts ih =>
        rw [List.forall_mem_cons] at hparts
        obtain ⟨pieces, hpieces, heq⟩ := ih hparts.2
        obtain ⟨point, hpoint, piece, hpiece, rfl⟩ := Language.mem_mul.mp hparts.1
        rw [mem_char_iff] at hpoint
        subst hpoint
        have hidentifier := (mem_identifierPattern_iff piece).mp hpiece
        refine ⟨piece :: pieces, List.forall_mem_cons.mpr ⟨hidentifier, hpieces⟩, ?_⟩
        rw [List.flatten_cons, heq]
        rfl
  · rintro ⟨pieces, hpieces, rfl⟩
    refine ⟨pieces.map ('.' :: ·), rfl, ?_⟩
    intro part hpart
    obtain ⟨piece, hpiece, rfl⟩ := List.mem_map.mp hpart
    have hidentifier := (mem_identifierPattern_iff piece).mpr (hpieces piece hpiece)
    exact ⟨['.'], (mem_char_iff _ _).mpr rfl, piece, hidentifier, rfl⟩

/-- The pattern is met by identifiers with points between them. -/
theorem mem_pathPattern_iff_intercalate (x : List Char) :
    x ∈ pathPattern.matches' ↔
      ∃ pieces, pieces ≠ [] ∧ (∀ piece ∈ pieces, IsIdentifier piece) ∧
        x = List.intercalate ['.'] pieces := by
  rw [pathPattern, matches'_mul, Language.mem_mul]
  constructor
  · rintro ⟨first, hfirst, rest, hrest, rfl⟩
    rw [mem_identifierPattern_iff] at hfirst
    obtain ⟨pieces, hpieces, rfl⟩ := (mem_star_point_iff rest).mp hrest
    refine ⟨first :: pieces, List.cons_ne_nil _ _, ?_, (intercalate_cons_eq ..).symm⟩
    exact List.forall_mem_cons.mpr ⟨hfirst, hpieces⟩
  · rintro ⟨pieces, hne, hpieces, rfl⟩
    cases pieces with
    | nil => exact absurd rfl hne
    | cons first pieces =>
        rw [List.forall_mem_cons] at hpieces
        have hfirst := (mem_identifierPattern_iff first).mpr hpieces.1
        have hrest := (mem_star_point_iff _).mpr ⟨pieces, hpieces.2, rfl⟩
        exact ⟨first, hfirst, _, hrest, (intercalate_cons_eq ..).symm⟩

/-- The pattern is met if every piece between the points is an
identifier. -/
theorem mem_pathPattern_iff (x : List Char) :
    x ∈ pathPattern.matches' ↔ ∀ piece ∈ x.splitOn '.', IsIdentifier piece := by
  rw [mem_pathPattern_iff_intercalate]
  constructor
  · rintro ⟨pieces, hne, hpieces, rfl⟩
    rw [List.splitOn_intercalate '.' (fun piece hp => (hpieces piece hp).point_not_mem) hne]
    exact hpieces
  · intro hpieces
    exact ⟨x.splitOn '.', List.splitOnP_ne_nil _ x, hpieces, (List.intercalate_splitOn '.').symm⟩

/-! ### The scan -/

/-- Splitting gives at least one piece. -/
theorem exists_splitOn_eq (cs : List Char) : ∃ run pieces, cs.splitOn '.' = run :: pieces :=
  List.exists_cons_of_ne_nil (List.splitOnP_ne_nil (· == '.') cs)

/-- The scan goes through the pieces from left to right. Where a piece
has to start it asks for an identifier, and inside of one for the rest of
it; behind a point the next piece has to start. -/
theorem isPathFrom_iff (cs run : List Char) (pieces : List (List Char))
    (h : cs.splitOn '.' = run :: pieces) :
    (isPathFrom true cs = true ↔
      IsIdentifier run ∧ ∀ piece ∈ pieces, IsIdentifier piece) ∧
    (isPathFrom false cs = true ↔
      (∀ c ∈ run, c ∈ letters ++ digits) ∧ ∀ piece ∈ pieces, IsIdentifier piece) := by
  induction cs generalizing run pieces with
  | nil =>
      rw [List.splitOn_nil, List.cons.injEq] at h
      obtain ⟨rfl, rfl⟩ := h
      simp [isPathFrom, IsIdentifier]
  | cons c cs ih =>
      obtain ⟨run', rest, hsplit⟩ := exists_splitOn_eq cs
      rw [List.splitOn_cons_eq_if_modifyHead, hsplit] at h
      obtain ⟨hstart, hinside⟩ := ih run' rest hsplit
      by_cases hpoint : c = '.'
      · -- The piece ends here, so it must not be asked for a start.
        subst hpoint
        rw [if_pos (beq_self_eq_true _), List.cons.injEq] at h
        obtain ⟨rfl, rfl⟩ := h
        have hpoint : startsSegment '.' = false := by decide
        rw [List.forall_mem_cons]
        simp [isPathFrom, IsIdentifier, hpoint, hstart]
      · -- The character belongs to the piece that the rest goes on with.
        rw [if_neg (by simpa using hpoint), List.modifyHead_cons, List.cons.injEq] at h
        obtain ⟨rfl, rfl⟩ := h
        simp only [isPathFrom, hpoint, if_false, Bool.and_eq_true, hinside, startsSegment_iff,
          inSegment_iff, IsIdentifier, List.forall_mem_cons, and_assoc, and_self]

/-- A path is what has an identifier in every piece. -/
theorem isPath_iff (key : String) :
    isPath key = true ↔ ∀ piece ∈ key.toList.splitOn '.', IsIdentifier piece := by
  obtain ⟨run, pieces, hsplit⟩ := exists_splitOn_eq key.toList
  rw [hsplit, List.forall_mem_cons]
  exact (isPathFrom_iff key.toList run pieces hsplit).1

/-! ### What a path cannot hold -/

/-- Characters of ASCII on one line, with single points that stand
neither in front nor at the end. -/
structure Tidy (cs : List Char) : Prop where
  ascii : ∀ c ∈ cs, c.toNat < 128
  oneLine : '\n' ∉ cs
  start : ¬ ['.'] <+: cs
  finish : ¬ ['.'] <:+ cs
  single : ¬ ['.', '.'] <:+: cs

/-- No text at all has an empty piece. -/
theorem ne_nil_of_pieces {cs : List Char} (h : ∀ piece ∈ cs.splitOn '.', IsIdentifier piece) :
    cs ≠ [] := by
  rintro rfl
  exact h [] (List.mem_singleton_self [])

/-- A point divides the pieces into those before and those behind it. -/
theorem pieces_around_point (before behind : List Char)
    (h : ∀ piece ∈ (before ++ '.' :: behind).splitOn '.', IsIdentifier piece) :
    (∀ piece ∈ before.splitOn '.', IsIdentifier piece) ∧
      ∀ piece ∈ behind.splitOn '.', IsIdentifier piece := by
  have hsplit : (before ++ '.' :: behind).splitOn '.'
      = before.splitOn '.' ++ behind.splitOn '.' :=
    List.splitOnP_append_cons before behind (beq_self_eq_true '.')
  rw [hsplit, List.forall_mem_append] at h
  exact h

/-- The last of the letters and digits is `z`. -/
theorem toNat_lt_of_inSegment {c : Char} (h : inSegment c = true) : c.toNat < 128 := by
  rw [inSegment_iff, List.mem_append, mem_letters_iff, mem_digits_iff] at h
  have hlast : c ≤ 'z' := by
    rcases h with (⟨-, hupper⟩ | ⟨-, hlower⟩ | rfl) | ⟨-, hdigit⟩
    · exact Char.le_trans hupper (by decide)
    · exact hlower
    · decide
    · exact Char.le_trans hdigit (by decide)
  have hle : c.toNat ≤ 'z'.toNat := hlast
  exact Nat.lt_of_le_of_lt hle (by decide)

/-- A path is tidy: it needs no escaping anywhere. -/
theorem tidy_of_isPath {key : String} (h : isPath key = true) : Tidy key.toList := by
  have hpieces := (isPath_iff key).mp h
  constructor
  · intro c hc
    rcases forall_mem_of_isPath h c hc with hsegment | rfl
    · exact toNat_lt_of_inSegment hsegment
    · decide
  · exact not_mem_of_isPath h (by decide) (by decide)
  · rintro ⟨behind, hkey⟩
    rw [← hkey] at hpieces
    exact ne_nil_of_pieces (pieces_around_point [] behind hpieces).1 rfl
  · rintro ⟨before, hkey⟩
    rw [← hkey] at hpieces
    exact ne_nil_of_pieces (pieces_around_point before [] hpieces).2 rfl
  · rintro ⟨before, behind, hkey⟩
    -- Between two points side by side there is an empty piece.
    rw [← hkey, List.append_assoc] at hpieces
    have hbehind := (pieces_around_point before ('.' :: behind) hpieces).2
    exact ne_nil_of_pieces (pieces_around_point [] behind hbehind).1 rfl

end Layout

/-! ### Selectors -/

namespace Sql

/-- A text without the quote is doubled nowhere. -/
theorem doubled_of_not_mem {quote : Char} {cs : List Char} (h : quote ∉ cs) :
    doubled quote cs = cs := by
  induction cs with
  | nil => rfl
  | cons c cs ih =>
      rw [List.mem_cons, not_or] at h
      rw [doubled, if_neg (Ne.symm h.1), ih h.2]

/-- Without a quote nothing is escaped. -/
theorem escapedString_of_not_mem {s : String} (h : '\x27' ∉ s.toList) : escapedString s = s := by
  rw [escapedString, doubled_of_not_mem h, String.ofList_toList]

/-- The function that takes a property out of the JSON column. -/
def Backend.extractor : Backend → String
  | hana => "JSON_VALUE"
  | duckdb => "json_extract_string"

/-- A part of the metadata is selected in the same form for both backends. -/
theorem Backend.jsonValue_eq (backend : Backend) (column path : String) :
    backend.jsonValue column path
      = backend.extractor ++ "(" ++ quotedName column ++ ", '$." ++ escapedString path ++ "')" := by
  cases backend <;> rfl

end Sql

namespace Layout

/-- A key without a column of its own is selected if it is a path, and
only then. A path is a key that is split at its points into identifiers,
which is what the pattern says, and so it is tidy. It stands in the text
as it is, behind `$.` in the string that the extracting function gets with
the JSON column. A key that is no path is refused by name. -/
theorem only_paths_are_selected (layout : Layout) (key : String)
    (hkey : key ∉ layout.specificColumns) :
    ((∃ text, layout.selector key = .ok text) ↔
      ∀ piece ∈ key.toList.splitOn '.', IsIdentifier piece) ∧
    ((∃ text, layout.selector key = .ok text) ↔ key.toList ∈ pathPattern.matches') ∧
    (∀ text, layout.selector key = .ok text →
      Tidy key.toList ∧ Sql.escapedString key = key ∧
        text = layout.backend.extractor ++ "(" ++ Sql.quotedName layout.metadataColumn ++
          ", '$." ++ key ++ "')") ∧
    ∀ e, layout.selector key = .error e → e = .invalidPropertyKey key := by
  have hspecific : layout.isSpecific key = false := by simpa [isSpecific] using hkey
  rw [mem_pathPattern_iff, ← isPath_iff]
  unfold selector
  rw [hspecific, if_neg Bool.false_ne_true]
  cases hpath : isPath key with
  | false => simp
  | true =>
      have hescaped : Sql.escapedString key = key :=
        Sql.escapedString_of_not_mem (not_mem_of_isPath hpath (by decide) (by decide))
      have htidy := tidy_of_isPath hpath
      rw [Sql.Backend.jsonValue_eq, hescaped]
      simp [htidy]

/-- A path of two identifiers is selected under a column with an awkward
name. A line end behind the path, a letter outside ASCII and a point too
many are refused. -/
theorem only_paths_are_selected_awkward :
    "source.lang_2".toList ∈ pathPattern.matches' ∧
    Compiler.awkward.layout.selector "source.lang_2"
      = .ok "json_extract_string(\"m\"\" OR (\", '$.source.lang_2')" ∧
    ∀ key ∈ ["source.lang\n", "é", "a..b", ".a", "a.", ""],
      Compiler.awkward.layout.selector key = .error (.invalidPropertyKey key) := by
  have hpath := Compiler.awkward.layout.only_paths_are_selected "source.lang_2" (by decide)
  refine ⟨hpath.2.1.mp ⟨_, rfl⟩, rfl, ?_⟩
  intro key hkey
  simp only [List.mem_cons, List.not_mem_nil, or_false] at hkey
  rcases hkey with rfl | rfl | rfl | rfl | rfl | rfl
  all_goals rfl

end Layout

end FilterSql
