import FilterSql.Json.Pass
import FilterSql.Proofs.Json.RoundTrip

/-!
# `FilterSql.Proofs.Json.Grammar`: the grammar of JSON texts

Which texts are JSON, and what they are made of (`Grammar.Spells`). The
grammar is that of the standard: numbers may be of any size, brackets
nested to any depth and keys repeated, and half of a surrogate pair may
stand alone. A reader for values refuses much of this, but a value that
nobody asks for is passed over as soon as it is spelled correctly
(`Scan.pass_of_spells`), and nothing behind it is touched.

A text is taken apart into a `Tree`. It knows of no reader: numerals are
kept as they are written, entries with their keys in the order of the
text, and a string is the text that its characters spell
(`Grammar.textOf?`), if they spell one.
-/

set_option autoImplicit false

namespace FilterSql.Json

/-- A JSON text taken apart. Strings and keys are missing if half of a
surrogate pair stands alone in them. -/
inductive Tree where
  | null
  | bool (b : Bool)
  | numeral (cs : List Char)
  | string (s : Option String)
  | array (items : List Tree)
  | object (entries : List (Option String × Tree))

/-- The entries of an object that is taken apart. -/
abbrev Tree.Entries := List (Option String × Tree)

/-- A string with this text. -/
def Tree.IsText (s : String) (tree : Tree) : Prop :=
  tree = .string (some s)

/-- An array of strings with these texts. -/
def Tree.IsTexts (texts : List String) (tree : Tree) : Prop :=
  tree = .array (texts.map fun s => .string (some s))

namespace Grammar

/-! ### Words -/

/-- Blanks, or nothing. -/
def Blanks (cs : List Char) : Prop :=
  ∀ c ∈ cs, c ∈ [' ', '\t', '\n', '\r']

theorem blanks_nil : Blanks [] := by
  simp [Blanks]

/-- Decimal digits, or nothing. -/
def Digits (cs : List Char) : Prop :=
  ∀ c ∈ cs, c.isDigit = true

/-- Hexadecimal digits in either case, with their values. -/
def hexDigits : List (Char × Nat) :=
  ['0', '1', '2', '3', '4', '5', '6', '7', '8', '9', 'a', 'b', 'c', 'd', 'e', 'f'].zipIdx ++
    ['A', 'B', 'C', 'D', 'E', 'F'].zipIdx 10

/-- The characters of `null`. -/
def null : List Char :=
  ['n', 'u', 'l', 'l']

/-- The values that have a name. -/
def words : List (List Char × Tree) :=
  [(null, .null), (['t', 'r', 'u', 'e'], .bool true), (['f', 'a', 'l', 's', 'e'], .bool false)]

/-- What may follow a backslash, apart from `u`, and the character that
it stands for. -/
def shortEscapes : List (Char × Char) :=
  [('"', '"'), ('\\', '\\'), ('/', '/'), ('b', '\x08'), ('f', '\x0c'), ('n', '\n'), ('r', '\r'),
    ('t', '\t')]

/-- The characters of a string that stand for themselves. -/
def isPlain (c : Char) : Bool :=
  0x20 ≤ c.toNat && c ≠ '"' && c ≠ '\\'

/-- Control characters, quotes and backslashes are not plain. -/
theorem isPlain_iff {c : Char} : isPlain c = true ↔ 0x20 ≤ c.toNat ∧ c ≠ '"' ∧ c ≠ '\\' := by
  simp [isPlain, and_assoc]

/-! ### Strings -/

/-- What the characters of a string stand for, one by one: a character,
or a code of 16 bits that may be half of a pair. -/
inductive Sign where
  | char (c : Char)
  | code (n : Nat)

/-- The characters that signs stand for, with the first half of a pair in
front or without one. There are none if half of a pair is left alone. -/
def decode? : (lead : Option Nat) → List Sign → Option (List Char)
  | none, [] => some []
  | some _, [] => none
  | none, .char c :: signs => (decode? none signs).map (c :: ·)
  | some _, .char _ :: _ => none
  | none, .code n :: signs =>
    if 0xDC00 ≤ n ∧ n < 0xE000 then none
    else if 0xD800 ≤ n ∧ n < 0xDC00 then decode? (some n) signs
    else (decode? none signs).map (Char.ofNat n :: ·)
  | some lead, .code n :: signs =>
    if 0xDC00 ≤ n ∧ n < 0xE000 then
      (decode? none signs).map
        (Char.ofNat (0x10000 + (lead - 0xD800) * 0x400 + (n - 0xDC00)) :: ·)
    else none

/-- The text that signs stand for, if they stand for one. -/
def textOf? (signs : List Sign) : Option String :=
  (decode? none signs).map String.ofList

/-- What stands between the quotes of a string, and the signs that it
spells. -/
inductive Characters : List Char → List Sign → Prop where
  | nil : Characters [] []
  | plain {c : Char} {cs : List Char} {signs : List Sign} (hc : isPlain c = true)
    (h : Characters cs signs) : Characters (c :: cs) (.char c :: signs)
  | short {c d : Char} {cs : List Char} {signs : List Sign} (hc : (c, d) ∈ shortEscapes)
    (h : Characters cs signs) : Characters ('\\' :: c :: cs) (.char d :: signs)
  | code {d₁ d₂ d₃ d₄ : Char} {n₁ n₂ n₃ n₄ : Nat} {cs : List Char} {signs : List Sign}
    (h₁ : (d₁, n₁) ∈ hexDigits) (h₂ : (d₂, n₂) ∈ hexDigits) (h₃ : (d₃, n₃) ∈ hexDigits)
    (h₄ : (d₄, n₄) ∈ hexDigits) (h : Characters cs signs) :
    Characters ('\\' :: 'u' :: d₁ :: d₂ :: d₃ :: d₄ :: cs)
      (.code (16 * (16 * (16 * n₁ + n₂) + n₃) + n₄) :: signs)

/-- Characters that stand for themselves. -/
theorem Characters.of_plain {cs : List Char} (h : cs.all isPlain = true) :
    Characters cs (cs.map .char) := by
  induction cs with
  | nil => exact .nil
  | cons c cs ih =>
      rw [List.all_cons, Bool.and_eq_true] at h
      exact .plain h.1 (ih h.2)

/-! ### Numerals -/

/-- The digits before the point: a zero alone, or no zero in front. -/
inductive Whole : List Char → Prop where
  | zero : Whole ['0']
  | digits {c : Char} {cs : List Char} (hc : c.isDigit = true) (hzero : c ≠ '0') (h : Digits cs) :
    Whole (c :: cs)

/-- A point and digits, or nothing. -/
inductive Fraction : List Char → Prop where
  | none : Fraction []
  | digits {c : Char} {cs : List Char} (hc : c.isDigit = true) (h : Digits cs) :
    Fraction ('.' :: c :: cs)

/-- An exponent with or without a sign, or nothing. -/
inductive Exponent : List Char → Prop where
  | none : Exponent []
  | digits {mark c : Char} {sign cs : List Char} (hmark : mark = 'e' ∨ mark = 'E')
    (hsign : sign = [] ∨ sign = ['+'] ∨ sign = ['-']) (hc : c.isDigit = true) (h : Digits cs) :
    Exponent (mark :: (sign ++ c :: cs))

/-- A numeral. -/
inductive Numeral : List Char → Prop where
  | mk {sign whole fraction exponent : List Char} (hsign : sign = [] ∨ sign = ['-'])
    (hwhole : Whole whole) (hfraction : Fraction fraction) (hexponent : Exponent exponent) :
    Numeral (sign ++ (whole ++ (fraction ++ exponent)))

/-! ### Values -/

/-- What stands in front of a part of an array or an object: blanks, and
a comma except for the first part. -/
inductive Separator : (first : Bool) → List Char → Prop where
  | start {bs : List Char} (h : Blanks bs) : Separator true bs
  | comma {bs bs' : List Char} (h : Blanks bs) (h' : Blanks bs') :
    Separator false (bs ++ ',' :: bs')

/-- The kinds of texts, with what they are made of. Arrays and objects
are taken apart from the left. -/
inductive Kind where
  | value (tree : Tree)
  /-- The items of an array that are left, with the closing bracket. -/
  | items (first : Bool) (trees : List Tree)
  /-- The entries of an object that are left, with the closing brace. -/
  | entries (first : Bool) (es : Tree.Entries)

/-- Texts of each kind. -/
inductive Spells : Kind → List Char → Prop where
  | word {cs : List Char} {tree : Tree} (h : (cs, tree) ∈ words) : Spells (.value tree) cs
  | numeral {cs : List Char} (h : Numeral cs) : Spells (.value (.numeral cs)) cs
  | string {cs : List Char} {signs : List Sign} (h : Characters cs signs) :
    Spells (.value (.string (textOf? signs))) ('"' :: (cs ++ ['"']))
  | array {cs : List Char} {trees : List Tree} (h : Spells (.items true trees) cs) :
    Spells (.value (.array trees)) ('[' :: cs)
  | object {cs : List Char} {es : Tree.Entries} (h : Spells (.entries true es) cs) :
    Spells (.value (.object es)) ('\x7b' :: cs)
  | itemsEnd (first : Bool) {bs : List Char} (h : Blanks bs) :
    Spells (.items first []) (bs ++ [']'])
  | item {first : Bool} {sep v cs : List Char} {tree : Tree} {trees : List Tree}
    (hsep : Separator first sep) (hv : Spells (.value tree) v)
    (h : Spells (.items false trees) cs) : Spells (.items first (tree :: trees)) (sep ++ (v ++ cs))
  | entriesEnd (first : Bool) {bs : List Char} (h : Blanks bs) :
    Spells (.entries first []) (bs ++ ['\x7d'])
  | entry {first : Bool} {sep key bs bs' v cs : List Char} {signs : List Sign} {tree : Tree}
    {es : Tree.Entries} (hsep : Separator first sep) (hkey : Characters key signs)
    (hbs : Blanks bs) (hbs' : Blanks bs') (hv : Spells (.value tree) v)
    (h : Spells (.entries false es) cs) :
    Spells (.entries first ((textOf? signs, tree) :: es))
      (sep ++ '"' :: (key ++ '"' :: (bs ++ ':' :: (bs' ++ (v ++ cs)))))

/-- A whole text that is one value, with or without blanks around it. -/
inductive IsDocument (tree : Tree) (text : String) : Prop where
  | mk {bs v bs' : List Char} (hbs : Blanks bs) (h : Spells (.value tree) v) (hbs' : Blanks bs')
    (htext : text.toList = bs ++ (v ++ bs'))

/-- The parts of a text that is one object. -/
theorem IsDocument.object {es : Tree.Entries} {text : String} (h : IsDocument (.object es) text) :
    ∃ bs cs bs', Blanks bs ∧ Spells (.entries true es) cs ∧ Blanks bs' ∧
      text.toList = bs ++ '\x7b' :: (cs ++ bs') := by
  obtain ⟨hbs, h, hbs', htext⟩ := h
  cases h with
  | object h => exact ⟨_, _, _, hbs, h, hbs', htext⟩
  | word h => simp [words] at h

end Grammar

namespace Scan

open Grammar

/-! ### Blanks and marks -/

/-- The reader has the same blanks. -/
theorem isSpace_iff {c : Char} : isSpace c = true ↔ c ∈ [' ', '\t', '\n', '\r'] := by
  simp [isSpace, or_assoc]

section

variable {bs : List Char}

/-- The reader skips blanks. -/
theorem skipSpaces_blanks (h : Blanks bs) (cs : List Char) :
    skipSpaces (bs ++ cs) = skipSpaces cs :=
  List.dropWhile_append_of_pos fun c hc => isSpace_iff.mpr (h c hc)

/-- It stops at the first character that is no blank. -/
theorem skipSpaces_blanks_cons (h : Blanks bs) {c : Char} (hc : isSpace c = false)
    (cs : List Char) : skipSpaces (bs ++ c :: cs) = c :: cs := by
  rw [skipSpaces_blanks h, skipSpaces_cons hc]

/-- A colon with blanks in front of it. -/
theorem colon_blanks (h : Blanks bs) (cs : List Char) : colon (bs ++ ':' :: cs) = .ok cs := by
  simp only [colon, skipSpaces_blanks_cons h (c := ':') rfl]

end

/-- The characters that can continue a numeral do not come next. -/
def Stops (cs : List Char) : Prop :=
  ∀ c ∈ cs.head?, c.isDigit = false ∧ c ≠ '.' ∧ c ≠ 'e' ∧ c ≠ 'E'

/-- No numeral goes on with a blank, a comma or a closing bracket. -/
theorem stops_cons {c : Char} (hc : isSpace c = true ∨ c ∈ [',', ']', '\x7d']) (cs : List Char) :
    Stops (c :: cs) := by
  rintro _ ⟨⟩
  simp only [isSpace, List.mem_cons, List.not_mem_nil, or_false, Bool.or_eq_true, decide_eq_true_eq]
    at hc
  rcases hc with (((rfl | rfl) | rfl) | rfl) | rfl | rfl | rfl <;> decide

/-- Nor with blanks and one of these marks behind them. -/
theorem stops_blanks_cons {bs : List Char} (h : Blanks bs) {c : Char} (hc : c ∈ [',', ']', '\x7d'])
    (cs : List Char) : Stops (bs ++ c :: cs) := by
  cases bs with
  | nil => exact stops_cons (.inr hc) cs
  | cons b bs => exact stops_cons (.inl (isSpace_iff.mpr (h b List.mem_cons_self))) _

/-- Nor with what stands between two parts. -/
theorem stops_separator {sep : List Char} (h : Separator false sep) (cs : List Char) :
    Stops (sep ++ cs) := by
  cases h with
  | comma hbs _ =>
      rw [List.append_assoc, List.cons_append]
      exact stops_blanks_cons hbs (by decide) _

/-- Behind an item of an array no numeral goes on. -/
theorem stops_of_items {cs : List Char} {trees : List Tree} (h : Spells (.items false trees) cs)
    (rest : List Char) : Stops (cs ++ rest) := by
  cases h with
  | itemsEnd _ hbs =>
      rw [List.append_assoc]
      exact stops_blanks_cons hbs (by decide) _
  | item hsep _ _ =>
      rw [List.append_assoc]
      exact stops_separator hsep _

/-- Nor does it behind an entry of an object. -/
theorem stops_of_entries {cs : List Char} {es : Tree.Entries} (h : Spells (.entries false es) cs)
    (rest : List Char) : Stops (cs ++ rest) := by
  cases h with
  | entriesEnd _ hbs =>
      rw [List.append_assoc]
      exact stops_blanks_cons hbs (by decide) _
  | entry hsep _ _ _ _ _ =>
      rw [List.append_assoc]
      exact stops_separator hsep _

/-! ### Strings -/

/-- The reader has the same hexadecimal digits. -/
theorem hexValue?_of_mem {d : Char} {n : Nat} (hd : (d, n) ∈ hexDigits) :
    hexValue? d = some n ∧ d.utf8Size = 1 := by
  have hall : (hexDigits.all fun (d, n) => hexValue? d == some n && d.utf8Size == 1) = true := rfl
  simpa using List.all_eq_true.mp hall (d, n) hd

/-- And the same short escapes. -/
theorem shortEscape?_of_mem {c d : Char} (hc : (c, d) ∈ shortEscapes) :
    shortEscape? c = some d := by
  have hall : (shortEscapes.all fun (c, d) => shortEscape? c == some d) = true := rfl
  simpa using List.all_eq_true.mp hall (c, d) hc

/-- One digit of a code that is passed over. -/
theorem passString_hex {d : Char} {n : Nat} (hd : (d, n) ∈ hexDigits) (left : Nat)
    (cs : List Char) :
    passString (.hex (left + 1) true) (d :: cs)
      = if left = 0 then passString .outside cs else passString (.hex left true) cs := by
  obtain ⟨hvalue, hsize⟩ := hexValue?_of_mem hd
  rw [passString, hvalue, hsize, Option.isSome_some]
  cases left with
  | zero => rfl
  | succ left => simp

/-- A string that is spelled correctly is passed over. -/
theorem passString_of_characters {cs : List Char} {signs : List Sign} (h : Characters cs signs)
    (rest : List Char) : passString .outside (cs ++ '"' :: rest) = .ok rest := by
  induction h with
  | nil => rfl
  | plain hc _ ih =>
      obtain ⟨hcontrol, hquote, hslash⟩ := isPlain_iff.mp hc
      rw [List.cons_append, passString, if_neg hquote, if_neg hslash, if_neg (by omega), ih]
  | short hc _ ih =>
      rw [List.cons_append, List.cons_append, passString, if_neg (by decide), if_pos rfl,
        passString, shortEscape?_of_mem hc, Option.isSome_some, if_pos rfl, ih]
  | code h₁ h₂ h₃ h₄ _ ih =>
      simp only [List.cons_append]
      rw [passString, if_neg (by decide), if_pos rfl, passString, if_neg (by decide), if_pos rfl]
      -- After the fourth digit the scan is outside the escape again.
      simp only [passString_hex h₁, passString_hex h₂, passString_hex h₃, passString_hex h₄, ih]
      rfl

/-! ### Numerals -/

/-- Digits end where something else follows. -/
theorem dropWhile_digits {cs rest : List Char} (h : Digits cs)
    (hrest : ∀ c ∈ rest.head?, c.isDigit = false) :
    (cs ++ rest).dropWhile Char.isDigit = rest := by
  rw [List.dropWhile_append_of_pos h]
  cases rest with
  | nil => rfl
  | cons c rest => rw [List.dropWhile_cons, hrest c rfl]; rfl

/-- The digits before the point are read to their end. -/
theorem wholeDigits_of_whole {cs rest : List Char} (h : Whole cs)
    (hrest : ∀ c ∈ rest.head?, c.isDigit = false) :
    ∃ digits, wholeDigits (cs ++ rest) = .ok (digits, rest) := by
  cases h with
  | zero =>
      -- Behind a zero in front another digit would be refused.
      refine ⟨['0'], ?_⟩
      have hnext : (rest.head?.map Char.isDigit).getD false = false := by
        cases hhead : rest.head? with
        | none => rfl
        | some c => exact hrest c hhead
      rw [List.singleton_append, wholeDigits, if_pos rfl, hnext]
      rfl
  | @digits c cs hc hzero h =>
      refine ⟨c :: (cs ++ rest).takeWhile Char.isDigit, ?_⟩
      rw [List.cons_append, wholeDigits, if_neg hzero, if_pos hc, dropWhile_digits h hrest]

/-- So are those behind it, and a missing fraction is no fault. -/
theorem fractionDigits_of_fraction {cs rest : List Char} (h : Fraction cs)
    (hrest : ∀ c ∈ rest.head?, c.isDigit = false ∧ c ≠ '.') :
    ∃ digits, fractionDigits (cs ++ rest) = .ok (digits, rest) := by
  cases h with
  | none =>
      refine ⟨[], ?_⟩
      rw [List.nil_append]
      unfold fractionDigits
      split
      -- A point that follows would be taken for the one of this numeral.
      · exact absurd rfl (hrest '.' rfl).2
      · exact absurd rfl (hrest '.' rfl).2
      · rfl
  | @digits c cs hc h =>
      refine ⟨c :: (cs ++ rest).takeWhile Char.isDigit, ?_⟩
      rw [List.cons_append, List.cons_append, fractionDigits, if_pos hc,
        dropWhile_digits h fun c hc => (hrest c hc).1]

/-- The sign of an exponent is told from its digits. -/
theorem exponentSign_of_sign {sign : List Char} (h : sign = [] ∨ sign = ['+'] ∨ sign = ['-'])
    {c : Char} (hc : c.isDigit = true) (rest : List Char) :
    ∃ negative, exponentSign (sign ++ c :: rest) = (negative, c :: rest) := by
  rcases h with rfl | rfl | rfl
  · refine ⟨false, ?_⟩
    rw [List.nil_append]
    unfold exponentSign
    split
    -- A digit is neither of the two signs.
    · next heq => cases heq; cases hc
    · next heq => cases heq; cases hc
    · rfl
  · exact ⟨false, rfl⟩
  · exact ⟨true, rfl⟩

/-- An exponent is read to its end, and a missing one is no fault. -/
theorem exponentPart_of_exponent {cs rest : List Char} (h : Grammar.Exponent cs)
    (hrest : Stops rest) : ∃ exponent, exponentPart (cs ++ rest) = .ok (exponent, rest) := by
  cases h with
  | none =>
      refine ⟨none, ?_⟩
      cases rest with
      | nil => rfl
      | cons c rest =>
          obtain ⟨-, -, he, hE⟩ := hrest c rfl
          simp [exponentPart, he, hE]
  | @digits mark c sign cs hmark hsign hc h =>
      obtain ⟨negative, hnegative⟩ := exponentSign_of_sign hsign hc (cs ++ rest)
      have hmark' : (mark = 'e' || mark = 'E') = true := by
        rcases hmark with rfl | rfl <;> rfl
      refine ⟨some ⟨negative, c :: (cs ++ rest).takeWhile Char.isDigit⟩, ?_⟩
      rw [List.cons_append, List.append_assoc, List.cons_append, exponentPart, if_pos hmark',
        exponentBody, hnegative]
      simp only [hc, if_true, dropWhile_digits h fun c hc => (hrest c hc).1, except_ok_bind]

/-- What may follow a fraction: an exponent, or the end of the numeral. -/
theorem head_of_exponent {cs rest : List Char} (h : Grammar.Exponent cs) (hrest : Stops rest) :
    ∀ c ∈ (cs ++ rest).head?, c.isDigit = false ∧ c ≠ '.' := by
  cases h with
  | none => exact fun c hc => ⟨(hrest c hc).1, (hrest c hc).2.1⟩
  | digits hmark =>
      rintro _ ⟨⟩
      rcases hmark with rfl | rfl <;> decide

/-- What may follow the digits before the point: a fraction, or what may
follow one. -/
theorem head_of_fraction {cs rest : List Char} (h : Fraction cs)
    (hrest : ∀ c ∈ rest.head?, c.isDigit = false ∧ c ≠ '.') :
    ∀ c ∈ (cs ++ rest).head?, c.isDigit = false := by
  cases h with
  | none => exact fun c hc => (hrest c hc).1
  | digits =>
      rintro _ ⟨⟩
      rfl

/-- The sign of a numeral is told from its digits. -/
theorem numeralSign_of_sign {sign whole : List Char} (h : sign = [] ∨ sign = ['-'])
    (hwhole : Whole whole) (rest : List Char) :
    ∃ negative, numeralSign (sign ++ (whole ++ rest)) = (negative, whole ++ rest) := by
  rcases h with rfl | rfl
  · refine ⟨false, ?_⟩
    cases hwhole with
    | zero => rfl
    | digits hc =>
        rw [List.nil_append, List.cons_append]
        unfold numeralSign
        split
        · next heq => cases heq; cases hc
        · rfl
  · exact ⟨true, rfl⟩

/-- A numeral is read to its end. -/
theorem numeral_of_spelled {cs rest : List Char} (h : Grammar.Numeral cs) (hrest : Stops rest) :
    ∃ n, numeral (cs ++ rest) = .ok (n, rest) := by
  obtain @⟨sign, whole, fraction, exponent, hsign, hwhole, hfraction, hexponent⟩ := h
  -- What a part may be followed by is what the next part starts with.
  have hafter := head_of_exponent hexponent hrest
  obtain ⟨negative, hsign⟩ := numeralSign_of_sign hsign hwhole (fraction ++ (exponent ++ rest))
  obtain ⟨whole', hwhole⟩ := wholeDigits_of_whole hwhole (head_of_fraction hfraction hafter)
  obtain ⟨fraction', hfraction⟩ := fractionDigits_of_fraction hfraction hafter
  obtain ⟨exponent', hexponent⟩ := exponentPart_of_exponent hexponent hrest
  refine ⟨⟨negative, whole', fraction', exponent'⟩, ?_⟩
  simp only [numeral, List.append_assoc, hsign, hwhole, hfraction, hexponent, except_ok_bind]

/-! ### Values that are passed over -/

/-- A numeral does not start with a blank. -/
theorem isSpace_of_numeral {c : Char} (hc : (c = '-' || c.isDigit) = true) : isSpace c = false := by
  rw [Bool.eq_false_iff]
  intro hspace
  simp only [isSpace, Bool.or_eq_true, decide_eq_true_eq] at hspace
  rcases hspace with ((rfl | rfl) | rfl) | rfl <;> cases hc

/-- It starts with a sign or a digit. -/
theorem head_of_numeral {cs : List Char} (h : Grammar.Numeral cs) :
    ∃ c cs', cs = c :: cs' ∧ (c = '-' || c.isDigit) = true := by
  obtain ⟨rfl | rfl, hwhole, -, -⟩ := h
  · cases hwhole with
    | zero => exact ⟨'0', _, rfl, rfl⟩
    | @digits c cs hc => exact ⟨c, _, rfl, by rw [hc, Bool.or_true]⟩
  · exact ⟨'-', _, rfl, rfl⟩

/-- A value starts with no blank, and with no bracket that closes
something. -/
theorem head_of_value {v : List Char} {tree : Tree} (h : Spells (.value tree) v) :
    ∃ c cs, v = c :: cs ∧ isSpace c = false ∧ c ≠ ']' := by
  cases h with
  | word h =>
      simp only [words, List.mem_cons, Prod.mk.injEq, List.not_mem_nil, or_false] at h
      rcases h with ⟨rfl, -⟩ | ⟨rfl, -⟩ | ⟨rfl, -⟩ <;> exact ⟨_, _, rfl, by decide, by decide⟩
  | numeral h =>
      obtain ⟨c, cs, rfl, hc⟩ := head_of_numeral h
      refine ⟨c, cs, rfl, isSpace_of_numeral hc, ?_⟩
      rintro rfl
      cases hc
  | string h => exact ⟨_, _, rfl, by decide, by decide⟩
  | array h => exact ⟨_, _, rfl, by decide, by decide⟩
  | object h => exact ⟨_, _, rfl, by decide, by decide⟩

section

variable {bs : List Char} (hbs : Blanks bs) (inner : Scan Unit)

include hbs

/-- Words are passed over. -/
theorem passWith_word {cs : List Char} {tree : Tree} (h : (cs, tree) ∈ words)
    (rest : List Char) : passWith inner (bs ++ (cs ++ rest)) = .ok ((), rest) := by
  simp only [words, List.mem_cons, Prod.mk.injEq, List.not_mem_nil, or_false] at h
  rcases h with ⟨rfl, -⟩ | ⟨rfl, -⟩ | ⟨rfl, -⟩ <;>
  · simp only [passWith, skipSpaces_blanks hbs]
    rfl

/-- So are numerals, whatever their size. -/
theorem passWith_numeral {cs : List Char} (h : Grammar.Numeral cs) {rest : List Char}
    (hrest : Stops rest) : passWith inner (bs ++ (cs ++ rest)) = .ok ((), rest) := by
  obtain ⟨n, hn⟩ := numeral_of_spelled h hrest
  obtain ⟨c, cs, rfl, hc⟩ := head_of_numeral h
  have hpass : passNumeral (c :: (cs ++ rest)) = .ok rest := by
    simp only [passNumeral, ← List.cons_append, hn]
  simp only [passWith, List.cons_append, skipSpaces_blanks_cons hbs (isSpace_of_numeral hc)]
  split
  case h_4 heq =>
    cases heq
    rw [if_pos hc, hpass, except_ok_bind]
  -- In the other cases the first character starts no numeral.
  all_goals
    next heq => cases heq <;> cases hc

/-- So are strings. -/
theorem passWith_string {cs : List Char} {signs : List Sign} (h : Characters cs signs)
    (rest : List Char) :
    passWith inner (bs ++ ('"' :: (cs ++ ['"']) ++ rest)) = .ok ((), rest) := by
  simp only [passWith, List.cons_append, List.append_assoc, List.nil_append,
    skipSpaces_blanks_cons hbs (c := '"') rfl, passString_of_characters h, except_ok_bind]

/-- For an array it depends on its items. -/
theorem passWith_array (cs : List Char) :
    passWith inner (bs ++ '[' :: cs) = passParts passMark inner (cs.length + 1) true cs := by
  simp only [passWith, skipSpaces_blanks_cons hbs (c := '[') rfl]

/-- For an object it depends on its entries. -/
theorem passWith_object (cs : List Char) :
    passWith inner (bs ++ '\x7b' :: cs) = passParts passNextKey inner (cs.length + 1) true cs := by
  simp only [passWith, skipSpaces_blanks_cons hbs (c := '\x7b') rfl]

end

/-- The place in front of an item. Only the blanks behind a comma are
still there. -/
theorem passMark_item {first : Bool} {sep v : List Char} {tree : Tree} (hsep : Separator first sep)
    (hv : Spells (.value tree) v) (rest : List Char) :
    ∃ bs, Blanks bs ∧ passMark first (sep ++ (v ++ rest)) = .ok (true, bs ++ (v ++ rest)) := by
  obtain ⟨c, cs, rfl, hspace, hclose⟩ := head_of_value hv
  cases hsep with
  | start h =>
      refine ⟨[], blanks_nil, ?_⟩
      simp only [passMark, List.cons_append, skipSpaces_blanks_cons h hspace]
      split <;> simp_all
  | @comma bs bs' h h' =>
      refine ⟨bs', h', ?_⟩
      simp [passMark, skipSpaces_blanks_cons h (c := ',') rfl]

/-- The end of an array is found. -/
theorem passMark_end (first : Bool) {bs : List Char} (h : Blanks bs) (rest : List Char) :
    passMark first (bs ++ ']' :: rest) = .ok (false, rest) := by
  simp only [passMark, skipSpaces_blanks_cons h (c := ']') rfl]

/-- A key is passed over like any string. -/
theorem passKey_of_characters {bs key : List Char} {signs : List Sign} (hbs : Blanks bs)
    (hkey : Characters key signs) (cs : List Char) :
    passKey (bs ++ '"' :: (key ++ '"' :: cs)) = .ok cs := by
  simp only [passKey, skipSpaces_blanks_cons hbs (c := '"') rfl, passString_of_characters hkey]

/-- A key, with what stands in front of it and with its colon. -/
theorem passNextKey_entry {first : Bool} {sep key bs : List Char} {signs : List Sign}
    (hsep : Separator first sep) (hkey : Characters key signs) (hbs : Blanks bs) (cs : List Char) :
    passNextKey first (sep ++ '"' :: (key ++ '"' :: (bs ++ ':' :: cs))) = .ok (true, cs) := by
  cases hsep with
  | start h =>
      have hfound : passKey ('"' :: (key ++ '"' :: (bs ++ ':' :: cs))) = .ok (bs ++ ':' :: cs) :=
        passKey_of_characters blanks_nil hkey _
      simp [passNextKey, skipSpaces_blanks_cons h (c := '"') rfl, hfound, colon_blanks hbs]
  | comma h h' =>
      simp [passNextKey, skipSpaces_blanks_cons h (c := ',') rfl, passKey_of_characters h' hkey,
        colon_blanks hbs]

/-- The end of an object is found. -/
theorem passNextKey_end (first : Bool) {bs : List Char} (h : Blanks bs) (rest : List Char) :
    passNextKey first (bs ++ '\x7d' :: rest) = .ok (false, rest) := by
  simp only [passNextKey, skipSpaces_blanks_cons h (c := '\x7d') rfl]

/-- Texts that are passed over, whatever follows them. No more brackets
are open at a time, and no more parts follow each other, than there are
characters. -/
def PassedOver : Kind → List Char → Prop
  | .value _, cs => ∀ levels bs rest, cs.length ≤ levels → Blanks bs → Stops rest →
    passLevels levels (bs ++ (cs ++ rest)) = .ok ((), rest)
  | .items first _, cs => ∀ levels limit rest, cs.length ≤ levels → cs.length ≤ limit →
    passParts passMark (passLevels levels) limit first (cs ++ rest) = .ok ((), rest)
  | .entries first _, cs => ∀ levels limit rest, cs.length ≤ levels → cs.length ≤ limit →
    passParts passNextKey (passLevels levels) limit first (cs ++ rest) = .ok ((), rest)

/-- One part of an array or an object, and then the others. -/
theorem passParts_of_next {next : Bool → Scan Bool} {inner : Scan Unit} {limit : Nat} {first : Bool}
    {cs after rest : List Char} (hnext : next first cs = .ok (true, after))
    (hinner : inner after = .ok ((), rest)) :
    passParts next inner (limit + 1) first cs = passParts next inner limit false rest := by
  simp only [passParts, hnext, except_ok_bind, if_true, hinner]

/-- The end of an array or an object. -/
theorem passParts_of_end {next : Bool → Scan Bool} (inner : Scan Unit) {limit : Nat} {first : Bool}
    {cs rest : List Char} (hlimit : 0 < limit) (hnext : next first cs = .ok (false, rest)) :
    passParts next inner limit first cs = .ok ((), rest) := by
  obtain ⟨limit, rfl⟩ := Nat.exists_eq_add_of_lt hlimit
  simp only [passParts, hnext, except_ok_bind, Bool.false_eq_true, if_false]

/-- A value has a level for itself, and what is left is for its parts. -/
theorem passedOver_of_passWith {cs : List Char} {tree : Tree} (hv : Spells (.value tree) cs)
    (h : ∀ levels bs rest, cs.length ≤ levels + 1 → Blanks bs → Stops rest →
      passWith (passLevels levels) (bs ++ (cs ++ rest)) = .ok ((), rest)) :
    PassedOver (.value tree) cs := by
  intro levels bs rest hlevels hbs hrest
  -- A value is not empty, so there is a level at least.
  obtain ⟨c, cs, rfl, -, -⟩ := head_of_value hv
  obtain ⟨left, rfl⟩ := Nat.exists_eq_add_of_lt hlevels
  exact h _ bs rest hlevels hbs hrest

/-- Whatever is spelled correctly is passed over. The induction is on
the grammar. -/
theorem passedOver_of_spells {kind : Kind} {cs : List Char} (h : Spells kind cs) :
    PassedOver kind cs := by
  induction h with
  | word h =>
      exact passedOver_of_passWith (.word h) fun levels bs rest _ hbs _ =>
        passWith_word hbs _ h rest
  | numeral h =>
      exact passedOver_of_passWith (.numeral h) fun levels bs rest _ hbs hrest =>
        passWith_numeral hbs _ h hrest
  | string h =>
      exact passedOver_of_passWith (.string h) fun levels bs rest _ hbs _ =>
        passWith_string hbs _ h rest
  | @array cs trees h ih =>
      refine passedOver_of_passWith (.array h) fun levels bs rest hlevels hbs _ => ?_
      rw [List.length_cons] at hlevels
      rw [List.cons_append, passWith_array hbs]
      -- The text behind the bracket bounds the parts, whatever follows it.
      refine ih levels _ rest (by omega) ?_
      rw [List.length_append]
      omega
  | @object cs es h ih =>
      refine passedOver_of_passWith (.object h) fun levels bs rest hlevels hbs _ => ?_
      rw [List.length_cons] at hlevels
      rw [List.cons_append, passWith_object hbs]
      refine ih levels _ rest (by omega) ?_
      rw [List.length_append]
      omega
  | itemsEnd first h =>
      intro levels limit rest _ hlimit
      rw [List.length_append, List.length_singleton] at hlimit
      rw [List.append_assoc, List.singleton_append]
      exact passParts_of_end _ (by omega) (passMark_end first h rest)
  | @item first sep v cs tree trees hsep hv h ihv ih =>
      intro levels limit rest hlevels hlimit
      -- An item has at least one character, so the limit goes down with the text.
      obtain ⟨c, v', rfl, -, -⟩ := head_of_value hv
      simp only [List.length_append, List.length_cons] at hlevels hlimit
      obtain ⟨limit, rfl⟩ := Nat.exists_eq_add_of_le' (show 1 ≤ limit by omega)
      obtain ⟨bs, hbs, hnext⟩ := passMark_item hsep hv (cs ++ rest)
      have hvalue := ihv levels bs (cs ++ rest) (by rw [List.length_cons]; omega) hbs
        (stops_of_items h rest)
      rw [List.append_assoc, List.append_assoc, passParts_of_next hnext hvalue]
      exact ih levels limit rest (by omega) (by omega)
  | entriesEnd first h =>
      intro levels limit rest _ hlimit
      rw [List.length_append, List.length_singleton] at hlimit
      rw [List.append_assoc, List.singleton_append]
      exact passParts_of_end _ (by omega) (passNextKey_end first h rest)
  | @entry first sep key bs bs' v cs signs tree es hsep hkey hbs hbs' hv h ihv ih =>
      intro levels limit rest hlevels hlimit
      simp only [List.length_append, List.length_cons] at hlevels hlimit
      obtain ⟨limit, rfl⟩ := Nat.exists_eq_add_of_le' (show 1 ≤ limit by omega)
      have hvalue := ihv levels bs' (cs ++ rest) (by omega) hbs' (stops_of_entries h rest)
      simp only [List.append_assoc, List.cons_append]
      rw [passParts_of_next (passNextKey_entry hsep hkey hbs _) hvalue]
      exact ih levels limit rest (by omega) (by omega)

/-- A value that is spelled correctly is passed over, with the blanks in
front of it. -/
theorem pass_of_spells {v : List Char} {tree : Tree} (h : Spells (.value tree) v)
    {bs rest : List Char} (hbs : Blanks bs) (hrest : Stops rest) :
    pass (bs ++ (v ++ rest)) = .ok ((), rest) := by
  refine passedOver_of_spells h _ bs rest ?_ hbs hrest
  simp only [List.length_append]
  omega

end Scan

end FilterSql.Json
