import FilterSql.Json.Writer
import FilterSql.Proofs.Json.Tracks
import Mathlib.Data.List.Nodup

/-!
# `FilterSql.Proofs.Json.RoundTrip`: what is written is what is read

A value that is spread over lines is read back as it was. Strings may
hold anything: what the writer escapes, in a short form or by its code,
the reader takes for the one character that is meant. Lines and
indentation are skipped.

Numbers are left out (`Json.Textual`). Of the others, an object comes
back only if its keys are distinct, and nothing that is nested deeper
than the reader goes.

* `Json.Scan.string_escaped`: a string.
* `Json.Scan.itemsFrom_prettyItems`, `Json.Scan.entriesFrom_prettyFields`:
  the parts of arrays and objects.
* `Json.readsBack_of_textual`: a value, with whatever follows it.
-/

set_option autoImplicit false

namespace FilterSql.Json

namespace Scan

/-! ### Strings -/

/-- The digits of a code are read as they are written, and each of them
takes up one byte. -/
theorem hexValue?_hexDigit :
    ∀ n < 16, hexValue? (hexDigit n) = some n ∧ (hexDigit n).utf8Size = 1 := by
  decide

/-- One digit of a code, if more are to come. -/
theorem stringFrom_hexDigit {n : Nat} (hn : n < 16) (seen : List Char) (left code : Nat)
    (cs : List Char) :
    stringFrom seen (.hex none (left + 2) (some code)) (hexDigit n :: cs)
      = stringFrom seen (.hex none (left + 1) (some (16 * code + n))) cs := by
  obtain ⟨hvalue, hsize⟩ := hexValue?_hexDigit n hn
  have hpush : pushHex (some code) (hexDigit n) = some (16 * code + n) := by simp [pushHex, hvalue]
  -- The reader counts bytes, so that a digit of one byte leaves one byte less.
  have hmore : 1 < left + 2 := by omega
  simp only [stringFrom, hsize, hpush, hmore, if_true]
  rfl

/-- A control character by its code. -/
theorem stringFrom_code {n : Nat} (hn : n < 0x20) (seen cs : List Char) :
    stringFrom seen .outside
        ('\\' :: 'u' :: '0' :: '0' :: hexDigit (n / 16) :: hexDigit (n % 16) :: cs)
      = stringFrom (Char.ofNat n :: seen) .outside cs := by
  have hhigh : n / 16 < 16 := by omega
  have hlow : n % 16 < 16 := by omega
  have hzero : '0' = hexDigit 0 := rfl
  have hstart : stringFrom seen .outside
        ('\\' :: 'u' :: '0' :: '0' :: hexDigit (n / 16) :: hexDigit (n % 16) :: cs)
      = stringFrom seen (.hex none 4 (some 0))
        ('0' :: '0' :: hexDigit (n / 16) :: hexDigit (n % 16) :: cs) := rfl
  rw [hstart, hzero, stringFrom_hexDigit (by omega), stringFrom_hexDigit (by omega),
    stringFrom_hexDigit hhigh]
  obtain ⟨hvalue, hsize⟩ := hexValue?_hexDigit _ hlow
  have hpush : pushHex (some (n / 16)) (hexDigit (n % 16)) = some n := by
    simp [pushHex, hvalue]
    omega
  -- The code is too small to be half of a pair.
  have htrail : isTrail n = false := by simp [isTrail]; omega
  have hlead : isLead n = false := by simp [isLead]; omega
  simp [stringFrom, hsize, hpush, htrail, hlead]

/-- A character is read as it was, escaped or not. -/
theorem stringFrom_escaped (seen : List Char) (c : Char) (cs : List Char) :
    stringFrom seen .outside (escaped c ++ cs) = stringFrom (c :: seen) .outside cs := by
  unfold escaped
  split_ifs with hquote hslash hb ht hn hf hr hcontrol
  · subst hquote; rfl
  · subst hslash; rfl
  · subst hb; rfl
  · subst ht; rfl
  · subst hn; rfl
  · subst hf; rfl
  · subst hr; rfl
  · have hcode := stringFrom_code hcontrol seen cs
    rwa [Char.ofNat_toNat] at hcode
  · rw [List.singleton_append, stringFrom, if_neg hquote, if_neg hslash, if_neg hcontrol]

/-- Escaped characters are read as what they stand for. -/
theorem stringFrom_flatMap_escaped (seen cs rest : List Char) :
    stringFrom seen .outside (cs.flatMap escaped ++ '"' :: rest)
      = .ok (String.ofList (seen.reverse ++ cs), rest) := by
  induction cs generalizing seen with
  | nil =>
      rw [List.flatMap_nil, List.nil_append, List.append_nil, stringFrom, if_pos rfl]
  | cons c cs ih =>
      rw [List.flatMap_cons, List.append_assoc, stringFrom_escaped, ih, List.reverse_cons,
        List.append_assoc, List.singleton_append]

/-- A string after its opening quote. -/
theorem string_escaped (s : String) (rest : List Char) :
    string (s.toList.flatMap escaped ++ '"' :: rest) = .ok (s, rest) := by
  rw [string, stringFrom_flatMap_escaped, List.reverse_nil, List.nil_append, String.ofList_toList]

end Scan

/-- A string is written with its characters escaped, between quotes. -/
theorem toList_quoted_append (s : String) (rest : List Char) :
    (quoted s).toList ++ rest = '"' :: (s.toList.flatMap escaped ++ '"' :: rest) := by
  simp [quoted]

/-! ### Blanks -/

namespace Scan

/-- A new line and its indentation are skipped. -/
theorem skipSpaces_newLine (level : Nat) (cs : List Char) :
    skipSpaces ((newLine level).toList ++ cs) = skipSpaces cs := by
  refine List.dropWhile_append_of_pos ?_
  intro c hc
  simp only [newLine, String.toList_append, String.toList_ofList, List.mem_append] at hc
  rcases hc with hc | hc
  · obtain rfl : c = '\n' := by simpa using hc
    rfl
  · rw [List.eq_of_mem_replicate hc]
    rfl

/-- Only blanks are skipped. -/
theorem skipSpaces_cons {c : Char} (hc : isSpace c = false) (cs : List Char) :
    skipSpaces (c :: cs) = c :: cs := by
  rw [skipSpaces, List.dropWhile_cons, hc]
  rfl

/-- So are those in front of a key. -/
theorem skipSpaces_newLine_quoted (level : Nat) (key : String) (cs : List Char) :
    skipSpaces ((newLine level).toList ++ ((quoted key).toList ++ cs))
      = '"' :: (key.toList.flatMap escaped ++ '"' :: cs) := by
  rw [skipSpaces_newLine, toList_quoted_append, skipSpaces_cons rfl]

/-! ### Marks between parts -/

section

variable {cs rest : List Char}

/-- The first item has no comma in front of it. -/
theorem nextItem_first {c : Char} (hcs : skipSpaces cs = c :: rest) (hc : c ≠ ']') :
    nextItem true cs = .ok (true, c :: rest) := by
  simp [nextItem, hcs]

/-- The next one has. -/
theorem nextItem_comma {c : Char} (hcs : skipSpaces cs = c :: rest) (hc : c ≠ ']') :
    nextItem false (',' :: cs) = .ok (true, c :: rest) := by
  have hcomma : skipSpaces (',' :: cs) = ',' :: cs := skipSpaces_cons rfl cs
  simp [nextItem, hcomma, hcs, hc]

/-- The end of an array. -/
theorem nextItem_close (first : Bool) (hcs : skipSpaces cs = ']' :: rest) :
    nextItem first cs = .ok (false, rest) := by
  simp only [nextItem, hcs]

/-- The next key has a comma in front of it. -/
theorem nextKey_comma (hcs : skipSpaces cs = '"' :: rest) :
    nextKey false (',' :: cs) = (string rest >>= fun (key, rest) => .ok (some key, rest)) := by
  have hcomma : skipSpaces (',' :: cs) = ',' :: cs := skipSpaces_cons rfl cs
  simp [nextKey, hcomma, hcs]

/-- The end of an object. -/
theorem nextKey_close (first : Bool) (hcs : skipSpaces cs = '\x7d' :: rest) :
    nextKey first cs = .ok (none, rest) := by
  simp only [nextKey, hcs]

end

end Scan

/-- A new key is given its value at the end. -/
theorem Fields.insert_of_not_mem {key : String} {fields : Fields}
    (h : key ∉ fields.map Prod.fst) (v : Json) : fields.insert key v = fields ++ [(key, v)] := by
  induction fields with
  | nil => rfl
  | cons entry fields ih =>
      rw [List.map_cons, List.mem_cons, not_or] at h
      rw [Entries.insert, if_neg (Ne.symm h.1), ih h.2, List.cons_append]

/-! ### Values -/

/-- Values without numbers in which no more than `levels` brackets are
open at a time, with distinct keys in every object. -/
inductive Textual : (levels : Nat) → Json → Prop where
  | null (levels : Nat) : Textual levels .null
  | bool (levels : Nat) (b : Bool) : Textual levels (.bool b)
  | string (levels : Nat) (s : String) : Textual levels (.string s)
  | array {levels : Nat} {items : List Json} (items_textual : ∀ v ∈ items, Textual levels v) :
    Textual (levels + 1) (.array items)
  | object {levels : Nat} {fields : Fields} (distinct : (fields.map Prod.fst).Nodup)
    (values_textual : ∀ entry ∈ fields, Textual levels entry.2) :
    Textual (levels + 1) (.object fields)

/-- A value at this level of a document is read as it was. Its text
starts with no blank and with no bracket that closes something. -/
structure ReadsBack (levels level : Nat) (v : Json) : Prop where
  opens : ∃ c cs, (prettyAt level v).toList = c :: cs ∧ Scan.isSpace c = false ∧ c ≠ ']'
  value : ∀ rest, Scan.value levels ((prettyAt level v).toList ++ rest) = .ok (v, rest)

namespace Scan

/-- An item on a new line, as the first one and behind a comma. -/
theorem nextItem_prettyAt {levels level : Nat} {v : Json} (h : ReadsBack levels level v)
    (rest : List Char) :
    nextItem true ((newLine level).toList ++ ((prettyAt level v).toList ++ rest))
        = .ok (true, (prettyAt level v).toList ++ rest) ∧
      nextItem false (',' :: ((newLine level).toList ++ ((prettyAt level v).toList ++ rest)))
        = .ok (true, (prettyAt level v).toList ++ rest) := by
  obtain ⟨c, cs, htext, hspace, hclose⟩ := h.opens
  have hskip : skipSpaces ((newLine level).toList ++ (c :: (cs ++ rest))) = c :: (cs ++ rest) := by
    rw [skipSpaces_newLine, skipSpaces_cons hspace]
  rw [htext, List.cons_append]
  exact ⟨nextItem_first hskip hclose, nextItem_comma hskip hclose⟩

/-- The items after the first. The induction is on the items, and the
limit goes down with them. -/
theorem itemsFrom_prettyItems {levels level limit : Nat} {items : List Json}
    (hitems : ∀ v ∈ items, ReadsBack levels (level + 1) v) (hlimit : items.length < limit)
    (seen : List Json) (rest : List Char) :
    itemsFrom (value levels) limit false seen ((prettyItems level items).toList ++ rest)
      = .ok (seen.reverse ++ items, rest) := by
  induction items generalizing limit seen with
  | nil =>
      obtain ⟨limit, rfl⟩ := Nat.exists_eq_add_of_lt hlimit
      have htext : (prettyItems level []).toList ++ rest
          = (newLine level).toList ++ ']' :: rest := by simp [prettyItems]
      have hclose : skipSpaces ((newLine level).toList ++ ']' :: rest) = ']' :: rest := by
        rw [skipSpaces_newLine, skipSpaces_cons rfl]
      rw [htext, itemsFrom, nextItem_close false hclose]
      simp
  | cons v items ih =>
      obtain ⟨limit, rfl⟩ := Nat.exists_eq_add_of_lt hlimit
      rw [List.forall_mem_cons] at hitems
      have htext : (prettyItems level (v :: items)).toList ++ rest
          = ',' :: ((newLine (level + 1)).toList ++ ((prettyAt (level + 1) v).toList ++
              ((prettyItems level items).toList ++ rest))) := by simp [prettyItems]
      rw [htext, itemsFrom, (nextItem_prettyAt hitems.1 _).2, except_ok_bind]
      simp only [if_true, hitems.1.value, except_ok_bind]
      rw [ih hitems.2 (by rw [List.length_cons]; omega), List.reverse_cons, List.append_assoc,
        List.singleton_append]

/-- An entry after its key. -/
theorem member_prettyAt {levels level : Nat} {v : Json} (h : ReadsBack levels level v)
    (fields : Fields) (key : String) (rest : List Char) :
    member (value levels) fields key (':' :: ' ' :: ((prettyAt level v).toList ++ rest))
      = .ok (fields.insert key v, rest) := by
  have hcolon : ∀ cs, colon (':' :: cs) = .ok cs := fun _ => rfl
  have hspace : ∀ cs, skipSpaces (' ' :: cs) = skipSpaces cs := fun _ => rfl
  rw [member_eq_bind, hcolon, except_ok_bind, ← value_skipSpaces, hspace, value_skipSpaces, h.value,
    except_ok_bind]

/-- The entries after the first, `before` being those that have been
read. The induction is as for items. -/
theorem entriesFrom_prettyFields {levels level limit : Nat} {before fields : Fields}
    (hfields : ∀ entry ∈ fields, ReadsBack levels (level + 1) entry.2)
    (hdistinct : ((before ++ fields).map Prod.fst).Nodup) (hlimit : fields.length < limit)
    (rest : List Char) :
    entriesFrom (member (value levels)) limit false before
        ((prettyFields level fields).toList ++ rest)
      = .ok (before ++ fields, rest) := by
  induction fields generalizing limit before with
  | nil =>
      obtain ⟨limit, rfl⟩ := Nat.exists_eq_add_of_lt hlimit
      have htext : (prettyFields level []).toList ++ rest
          = (newLine level).toList ++ '\x7d' :: rest := by simp [prettyFields]
      have hclose : skipSpaces ((newLine level).toList ++ '\x7d' :: rest) = '\x7d' :: rest := by
        rw [skipSpaces_newLine, skipSpaces_cons rfl]
      rw [htext, entriesFrom, nextKey_close false hclose, except_ok_bind, List.append_nil]
  | cons entry fields ih =>
      obtain ⟨key, v⟩ := entry
      obtain ⟨limit, rfl⟩ := Nat.exists_eq_add_of_lt hlimit
      rw [List.forall_mem_cons] at hfields
      have htext : (prettyFields level ((key, v) :: fields)).toList ++ rest
          = ',' :: ((newLine (level + 1)).toList ++ ((quoted key).toList ++
              (':' :: ' ' :: ((prettyAt (level + 1) v).toList ++
                ((prettyFields level fields).toList ++ rest))))) := by simp [prettyFields]
      -- A new key is put at the end, which is where it was written.
      have hnew : key ∉ before.map Prod.fst := by
        rw [List.map_append, List.map_cons, List.nodup_middle, List.nodup_cons] at hdistinct
        exact fun hmem => hdistinct.1 (List.mem_append_left _ hmem)
      rw [htext, entriesFrom, nextKey_comma (skipSpaces_newLine_quoted _ key _), string_escaped]
      simp only [except_ok_bind, member_prettyAt hfields.1, Fields.insert_of_not_mem hnew]
      rw [ih hfields.2 (by rwa [List.append_assoc]) (by rw [List.length_cons]; omega),
        List.append_assoc, List.singleton_append]

/-- Every item takes a character at least. -/
theorem length_le_prettyItems (level : Nat) (items : List Json) :
    items.length ≤ (prettyItems level items).toList.length := by
  induction items with
  | nil => exact Nat.zero_le _
  | cons v items ih =>
      simp only [prettyItems, String.toList_append, List.length_append, List.length_cons]
      have hcomma : ",".toList.length = 1 := rfl
      omega

/-- And so does every entry. -/
theorem length_le_prettyFields (level : Nat) (fields : Fields) :
    fields.length ≤ (prettyFields level fields).toList.length := by
  induction fields with
  | nil => exact Nat.zero_le _
  | cons entry fields ih =>
      simp only [prettyFields, String.toList_append, List.length_append, List.length_cons]
      have hcomma : ",".toList.length = 1 := rfl
      omega

/-- A new line is a character. -/
theorem length_newLine_pos (level : Nat) : 0 < (newLine level).toList.length := by
  simp [newLine]

/-- The items of an array after its opening bracket. Each of them takes
up a character at least, so the limit is large enough. -/
theorem items_pretty {levels level : Nat} {v : Json} {items : List Json}
    (hv : ReadsBack levels (level + 1) v) (hitems : ∀ w ∈ items, ReadsBack levels (level + 1) w)
    (rest : List Char) :
    Scan.items (value levels) ((newLine (level + 1)).toList ++ ((prettyAt (level + 1) v).toList ++
        ((prettyItems level items).toList ++ rest)))
      = .ok (v :: items, rest) := by
  rw [Scan.items, itemsFrom, (nextItem_prettyAt hv _).1, except_ok_bind]
  simp only [if_true, hv.value, except_ok_bind]
  rw [itemsFrom_prettyItems hitems]
  · rfl
  · have hlength := length_le_prettyItems level items
    have hline := length_newLine_pos (level + 1)
    simp only [List.length_append]
    omega

/-- The entries of an object after its opening brace. -/
theorem entries_pretty {levels level : Nat} {key : String} {v : Json} {fields : Fields}
    (hv : ReadsBack levels (level + 1) v)
    (hfields : ∀ entry ∈ fields, ReadsBack levels (level + 1) entry.2)
    (hdistinct : (((key, v) :: fields).map Prod.fst).Nodup) (rest : List Char) :
    entries (member (value levels)) [] ((newLine (level + 1)).toList ++ ((quoted key).toList ++
        (':' :: ' ' :: ((prettyAt (level + 1) v).toList ++
          ((prettyFields level fields).toList ++ rest)))))
      = .ok ((key, v) :: fields, rest) := by
  rw [entries, entriesFrom, nextKey_of_string (skipSpaces_newLine_quoted _ key _), string_escaped]
  simp only [except_ok_bind, member_prettyAt hv]
  rw [entriesFrom_prettyFields hfields hdistinct]
  · rfl
  · have hlength := length_le_prettyFields level fields
    have hline := length_newLine_pos (level + 1)
    simp only [List.length_append, List.length_cons]
    omega

end Scan

/-- A value whose text has this first character, and what comes behind
it if `rest` follows the value. -/
theorem ReadsBack.of_text {levels level : Nat} {v : Json} {c : Char}
    {tail : List Char → List Char} (hspace : Scan.isSpace c = false) (hclose : c ≠ ']')
    (htext : ∀ rest, (prettyAt level v).toList ++ rest = c :: tail rest)
    (hvalue : ∀ rest, Scan.value levels (c :: tail rest) = .ok (v, rest)) :
    ReadsBack levels level v where
  opens := ⟨c, tail [], by rw [← htext, List.append_nil], hspace, hclose⟩
  value rest := by rw [htext, hvalue]

/-- A value whose text does not go over to parts: a word, or brackets
with nothing between them. -/
theorem ReadsBack.of_word {levels level : Nat} {v : Json} {c : Char} {cs : List Char}
    (hspace : Scan.isSpace c = false) (hclose : c ≠ ']')
    (htext : (prettyAt level v).toList = c :: cs)
    (hvalue : ∀ rest, Scan.value levels (c :: (cs ++ rest)) = .ok (v, rest)) :
    ReadsBack levels level v :=
  .of_text hspace hclose (fun rest => by rw [htext, List.cons_append]) hvalue

/-- A string is read back, whatever it holds. -/
theorem readsBack_string (levels level : Nat) (s : String) : ReadsBack levels level (.string s) := by
  have htext : ∀ rest, (prettyAt level (.string s)).toList ++ rest
      = '"' :: (s.toList.flatMap escaped ++ '"' :: rest) := by
    intro rest
    rw [prettyAt, toList_quoted_append]
  refine .of_text rfl (by decide) htext fun rest => ?_
  rw [Scan.value_of_string (Scan.skipSpaces_cons rfl _), Scan.string_escaped, except_ok_bind]

/-- An array is read back if its items are, one level further in. -/
theorem readsBack_array {levels level : Nat} {items : List Json}
    (h : ∀ v ∈ items, ReadsBack levels (level + 1) v) :
    ReadsBack (levels + 1) level (.array items) := by
  cases items with
  | nil =>
      have htext : (prettyAt level (.array [])).toList = ['[', ']'] := by simp [prettyAt]
      exact .of_word rfl (by decide) htext fun rest => rfl
  | cons v items =>
      rw [List.forall_mem_cons] at h
      have htext : ∀ rest, (prettyAt level (.array (v :: items))).toList ++ rest
          = '[' :: ((newLine (level + 1)).toList ++ ((prettyAt (level + 1) v).toList ++
              ((prettyItems level items).toList ++ rest))) := by
        intro rest
        simp [prettyAt]
      refine .of_text rfl (by decide) htext fun rest => ?_
      rw [Scan.value_of_array (Scan.skipSpaces_cons rfl _), Scan.items_pretty h.1 h.2,
        except_ok_bind]

/-- An object is read back if its values are and its keys are distinct:
the reader would keep one entry for a key that comes twice. -/
theorem readsBack_object {levels level : Nat} {fields : Fields}
    (hdistinct : (fields.map Prod.fst).Nodup)
    (h : ∀ entry ∈ fields, ReadsBack levels (level + 1) entry.2) :
    ReadsBack (levels + 1) level (.object fields) := by
  cases fields with
  | nil =>
      have htext : (prettyAt level (.object [])).toList = ['\x7b', '\x7d'] := by simp [prettyAt]
      exact .of_word rfl (by decide) htext fun rest => rfl
  | cons entry fields =>
      obtain ⟨key, v⟩ := entry
      rw [List.forall_mem_cons] at h
      have htext : ∀ rest, (prettyAt level (.object ((key, v) :: fields))).toList ++ rest
          = '\x7b' :: ((newLine (level + 1)).toList ++ ((quoted key).toList ++
              (':' :: ' ' :: ((prettyAt (level + 1) v).toList ++
                ((prettyFields level fields).toList ++ rest))))) := by
        intro rest
        simp [prettyAt]
      refine .of_text rfl (by decide) htext fun rest => ?_
      rw [Scan.value_of_object (Scan.skipSpaces_cons rfl _),
        Scan.entries_pretty h.1 h.2 hdistinct, except_ok_bind]

/-- A value without numbers is read as it was. The induction is on the
value; its parts are one level further in on both sides. -/
theorem readsBack_of_textual {levels : Nat} {v : Json} (h : Textual levels v) (level : Nat) :
    ReadsBack levels level v := by
  induction h generalizing level with
  | null levels =>
      have htext : (prettyAt level .null).toList = ['n', 'u', 'l', 'l'] := by simp [prettyAt]
      exact .of_word rfl (by decide) htext fun rest => by cases levels <;> rfl
  | bool levels b =>
      cases b with
      | true =>
          have htext : (prettyAt level (.bool true)).toList = ['t', 'r', 'u', 'e'] := by
            simp [prettyAt]
          exact .of_word rfl (by decide) htext fun rest => by cases levels <;> rfl
      | false =>
          have htext : (prettyAt level (.bool false)).toList = ['f', 'a', 'l', 's', 'e'] := by
            simp [prettyAt]
          exact .of_word rfl (by decide) htext fun rest => by cases levels <;> rfl
  | string levels s => exact readsBack_string levels level s
  | array _ ih => exact readsBack_array fun v hv => ih v hv (level + 1)
  | object hdistinct _ ih =>
      exact readsBack_object hdistinct fun entry hentry => ih entry hentry (level + 1)

end FilterSql.Json
