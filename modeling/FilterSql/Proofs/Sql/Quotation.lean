import FilterSql.Sql.Quoted

/-!
# `FilterSql.Proofs.Sql.Quotation`: what is quoted is read back

A database reads a quotation without knowing how long it is: two quotes
are one quote of the content, and the first quote that stands alone is
the end. The content may hold quotes at its start, at its end and in
runs, so a quote next to the end could be taken for part of the content,
and the end for the first half of a pair. It is not, for a reason that
lies in what follows: the end stands alone exactly if no further quote
comes behind it.

* `Sql.readQuoted`: the rest of a quotation and what follows it.
* `Sql.readQuoted_eq_some_iff`: reading undoes writing, and nothing but
  what is written that way is read. All else about the reader follows.
* `Sql.readName`, `Sql.readString`: whole quotations at the start of a
  text.
-/

set_option autoImplicit false

namespace FilterSql.Sql

/-! ### Inside a quotation -/

/-- Reads on inside a quotation, up to its end. A quote that stands
twice is part of it. -/
def readQuoted (quote : Char) : List Char → Option (List Char × List Char)
  | [] => none
  | [c] => if c = quote then some ([], []) else none
  | c :: d :: cs =>
    if c = quote then
      if d = quote then (readQuoted quote cs).map fun r => (quote :: r.1, r.2)
      else some ([], d :: cs)
    else (readQuoted quote (d :: cs)).map fun r => (c :: r.1, r.2)

/-- A character that is not the quote belongs to the quotation. -/
theorem readQuoted_cons_of_ne {quote c : Char} (hc : c ≠ quote) (cs : List Char) :
    readQuoted quote (c :: cs) = (readQuoted quote cs).map fun r => (c :: r.1, r.2) := by
  cases cs with
  | nil => simp [readQuoted, hc]
  | cons d cs => rw [readQuoted, if_neg hc]

/-- A body with its quotes written twice is read to its end and no
further, provided that no further quote follows. -/
theorem readQuoted_doubled (quote : Char) (body rest : List Char)
    (hrest : rest.head? ≠ some quote) :
    readQuoted quote (doubled quote body ++ quote :: rest) = some (body, rest) := by
  induction body with
  | nil =>
      cases rest with
      | nil => simp [doubled, readQuoted]
      | cons d rest =>
          have hd : d ≠ quote := by
            intro heq
            exact hrest (by rw [heq]; rfl)
          simp [doubled, readQuoted, hd]
  | cons c body ih =>
      by_cases hc : c = quote
      · rw [doubled, if_pos hc, List.cons_append, List.cons_append, hc, readQuoted,
          if_pos rfl, if_pos rfl, ih]
        rfl
      · rw [doubled, if_neg hc, List.cons_append, readQuoted_cons_of_ne hc, ih]
        rfl

/-- What is read as the inside of a quotation was written as it, and the
quotation has ended where no further quote follows. The cases are those
of the reader. -/
theorem eq_doubled_of_readQuoted {quote : Char} {cs body rest : List Char}
    (h : readQuoted quote cs = some (body, rest)) :
    cs = doubled quote body ++ quote :: rest ∧ rest.head? ≠ some quote := by
  induction cs using readQuoted.induct quote generalizing body rest with
  | case1 => cases h
  | case2 =>
      simp only [readQuoted, if_true, Option.some.injEq, Prod.mk.injEq] at h
      obtain ⟨rfl, rfl⟩ := h
      simp [doubled]
  | case3 c hc => simp [readQuoted, hc] at h
  | case4 cs ih =>
      -- A pair of quotes is one quote of the content.
      simp only [readQuoted, if_true, Option.map_eq_some_iff, Prod.mk.injEq] at h
      obtain ⟨⟨body, rest⟩, hr, rfl, rfl⟩ := h
      obtain ⟨hcs, hrest⟩ := ih hr
      exact ⟨by rw [hcs, doubled, if_pos rfl, List.cons_append, List.cons_append], hrest⟩
  | case5 d cs hd =>
      -- A quote before anything else is the end.
      simp only [readQuoted, if_true, hd, if_false, Option.some.injEq, Prod.mk.injEq] at h
      obtain ⟨rfl, rfl⟩ := h
      simp [doubled, hd]
  | case6 c d cs hc ih =>
      simp only [readQuoted, hc, if_false, Option.map_eq_some_iff, Prod.mk.injEq] at h
      obtain ⟨⟨body, rest⟩, hr, rfl, rfl⟩ := h
      obtain ⟨hcs, hrest⟩ := ih hr
      exact ⟨by rw [hcs, doubled, if_neg hc, List.cons_append], hrest⟩

/-- The inside of a quotation is its content with every quote written
twice, up to a quote that no other one follows. -/
theorem readQuoted_eq_some_iff {quote : Char} {cs body rest : List Char} :
    readQuoted quote cs = some (body, rest) ↔
      cs = doubled quote body ++ quote :: rest ∧ rest.head? ≠ some quote := by
  constructor
  · exact eq_doubled_of_readQuoted
  · rintro ⟨rfl, hrest⟩
    exact readQuoted_doubled quote body rest hrest

/-- What follows a quotation is shorter than what was read. -/
theorem length_of_readQuoted {quote : Char} {cs body rest : List Char}
    (h : readQuoted quote cs = some (body, rest)) : rest.length < cs.length := by
  obtain ⟨rfl, -⟩ := readQuoted_eq_some_iff.mp h
  simp only [List.length_append, List.length_cons]
  omega

/-- A quotation ends where it did, whatever comes behind a text, unless
it goes on with the quote. -/
theorem readQuoted_append {quote d : Char} (hd : d ≠ quote) {cs body rest : List Char}
    (h : readQuoted quote cs = some (body, rest)) (ds : List Char) :
    readQuoted quote (cs ++ d :: ds) = some (body, rest ++ d :: ds) := by
  obtain ⟨rfl, hrest⟩ := readQuoted_eq_some_iff.mp h
  refine readQuoted_eq_some_iff.mpr ⟨?_, ?_⟩
  · rw [List.append_assoc, List.cons_append]
  · cases rest with
    | nil => simpa using hd
    | cons e rest => exact hrest

/-! ### Whole quotations -/

/-- Reads the quotation that a text starts with: what is meant by it, and
the text behind it. -/
def readQuotation (quote : Char) (text : String) : Option (String × String) :=
  match text.toList with
  | [] => none
  | c :: cs =>
    if c = quote then
      (readQuoted quote cs).map fun r => (String.ofList r.1, String.ofList r.2)
    else none

/-- Reads a name between double quotes. -/
def readName : String → Option (String × String) :=
  readQuotation '"'

/-- Reads a string between single quotes. -/
def readString : String → Option (String × String) :=
  readQuotation '\x27'

/-- A quotation is its inside between two quotes, whichever they are. -/
theorem readQuotation_eq_some_iff {quote : Char} {text content rest : String} :
    readQuotation quote text = some (content, rest) ↔
      text.toList = quote :: (doubled quote content.toList ++ quote :: rest.toList) ∧
        rest.toList.head? ≠ some quote := by
  -- Both texts are taken as their characters, which is what the reader gives back.
  obtain ⟨body, rfl⟩ : ∃ body, content = String.ofList body := ⟨_, String.ofList_toList.symm⟩
  obtain ⟨tail, rfl⟩ : ∃ tail, rest = String.ofList tail := ⟨_, String.ofList_toList.symm⟩
  rw [String.toList_ofList, String.toList_ofList, readQuotation]
  cases text.toList with
  | nil => simp
  | cons c cs =>
      by_cases hc : c = quote
      · simp only [hc, if_true, Option.map_eq_some_iff, Prod.mk.injEq, String.ofList_inj,
          Prod.exists, exists_eq_right_right, exists_eq_right, List.cons.injEq, true_and,
          readQuoted_eq_some_iff]
      · simp [hc]

/-- Quoting is undone by reading, whatever the content is and whatever
follows, unless that goes on with the quote. A text that starts with a
name between double quotes, or with a string between single ones, is read
up to the end of the quotation and no further, and what is read is the
content; and no other text is read as this content with this rest. -/
theorem quotations_read_back (text content rest : String) :
    (readName text = some (content, rest) ↔
      text = quotedName content ++ rest ∧ rest.toList.head? ≠ some '"') ∧
    (readString text = some (content, rest) ↔
      text = "'" ++ escapedString content ++ "'" ++ rest ∧
        rest.toList.head? ≠ some '\x27') := by
  constructor
  · rw [readName, readQuotation_eq_some_iff, ← String.toList_inj]
    simp [quotedName]
  · rw [readString, readQuotation_eq_some_iff, ← String.toList_inj]
    simp [escapedString]

-- A run of quotes is paired from the left, and the odd one is the end.
example : readName "\"\"\"a\"\"\", \"b\"" = some ("\"a\"", ", \"b\"") := by
  cbv

end FilterSql.Sql
