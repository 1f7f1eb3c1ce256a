import FilterSql.Json.Typed
import FilterSql.Proofs.Json.Grammar
import FilterSql.Proofs.Json.Passing

/-!
# `FilterSql.Proofs.Json.Accepted`: what is taken is JSON

The other half of the comparison with the grammar: what a scan takes off
the front of a text is spelled as the grammar says (`Scan.Front`), whether
it is read or passed over. With `Scan.pass_of_spells` this makes the
grammar the exact description of what may stand where a value is ignored.

* `Scan.accepts_valueOf`: values that are read.
* `Scan.accepts_pass`: values that are passed over.
-/

set_option autoImplicit false

namespace FilterSql.Json.Scan

open Grammar

/-- A text of this kind stands at the front of `cs`, and `rest` is what
follows it. -/
def Front {α : Type} (kind : α → Kind) (cs rest : List Char) : Prop :=
  ∃ a v, Spells (kind a) v ∧ cs = v ++ rest

/-- A colon and a value stand at the front of `cs`, as they do behind a
key, and `rest` is what follows them. -/
def EntryFront (cs rest : List Char) : Prop :=
  ∃ value, skipSpaces cs = ':' :: value ∧ Front .value (skipSpaces value) rest

/-! ### Blanks and marks -/

/-- What is skipped are blanks. -/
theorem exists_blanks (cs : List Char) : ∃ bs, Blanks bs ∧ cs = bs ++ skipSpaces cs :=
  ⟨cs.takeWhile isSpace, fun _ hc => isSpace_iff.mp (List.mem_takeWhile_imp hc),
    List.takeWhile_append_dropWhile.symm⟩

/-- In front of the first part there are blanks. -/
theorem separator_start (cs : List Char) :
    ∃ sep, Separator true sep ∧ cs = sep ++ skipSpaces cs := by
  obtain ⟨bs, hbs, hcs⟩ := exists_blanks cs
  exact ⟨bs, .start hbs, hcs⟩

/-- In front of another part there is a comma. -/
theorem separator_comma {cs mid : List Char} (h : skipSpaces cs = ',' :: mid) :
    ∃ sep, Separator false sep ∧ cs = sep ++ skipSpaces mid := by
  obtain ⟨bs, hbs, hcs⟩ := exists_blanks cs
  obtain ⟨bs', hbs', hmid⟩ := exists_blanks mid
  refine ⟨bs ++ ',' :: bs', .comma hbs hbs', ?_⟩
  rw [hcs, h, List.append_assoc, List.cons_append, ← hmid]

/-- A value behind a colon that is found. -/
theorem EntryFront.of_colon {cs value rest : List Char} (h : colon cs = .ok value)
    (hv : Front .value (skipSpaces value) rest) : EntryFront cs rest := by
  unfold colon at h
  split at h
  · cases h
  · next hcs =>
      cases h
      exact ⟨value, hcs, hv⟩
  · cases h

/-- A document may be followed by blanks only. -/
theorem ending_eq_ok_iff {cs : List Char} : ending cs = .ok () ↔ skipSpaces cs = [] := by
  unfold ending
  split <;> simp_all

/-! ### What arrays and objects are made of -/

section

variable {first : Bool} {sep cs mid after rest key : List Char} {signs : List Sign}

/-- An array ends here. -/
theorem Front.itemsEnd (h : skipSpaces cs = ']' :: rest) : Front (.items first) cs rest := by
  obtain ⟨bs, hbs, hcs⟩ := exists_blanks cs
  refine ⟨[], _, .itemsEnd first hbs, ?_⟩
  rw [List.append_assoc, List.singleton_append, ← h, ← hcs]

/-- An item, and what follows it. -/
theorem Front.item (hsep : Separator first sep) (hcs : cs = sep ++ skipSpaces mid)
    (hv : Front .value (skipSpaces mid) after) (h : Front (.items false) after rest) :
    Front (.items first) cs rest := by
  obtain ⟨tree, v, hv, hmid⟩ := hv
  obtain ⟨trees, w, hw, hafter⟩ := h
  refine ⟨tree :: trees, _, .item hsep hv hw, ?_⟩
  rw [hcs, hmid, hafter, List.append_assoc, List.append_assoc]

/-- An object ends here. -/
theorem Front.entriesEnd (h : skipSpaces cs = '\x7d' :: rest) : Front (.entries first) cs rest := by
  obtain ⟨bs, hbs, hcs⟩ := exists_blanks cs
  refine ⟨[], _, .entriesEnd first hbs, ?_⟩
  rw [List.append_assoc, List.singleton_append, ← h, ← hcs]

/-- An entry, and what follows it. -/
theorem Front.entry (hsep : Separator first sep) (hkey : Characters key signs)
    (hcs : cs = sep ++ '"' :: (key ++ '"' :: mid)) (hv : EntryFront mid after)
    (h : Front (.entries false) after rest) : Front (.entries first) cs rest := by
  obtain ⟨value, hmid, tree, v, hv, hskip⟩ := hv
  obtain ⟨bs, hbs, hmid'⟩ := exists_blanks mid
  obtain ⟨bs', hbs', hvalue⟩ := exists_blanks value
  obtain ⟨es, w, hw, hafter⟩ := h
  refine ⟨(textOf? signs, tree) :: es, _, .entry hsep hkey hbs hbs' hv hw, ?_⟩
  rw [hcs, hmid', hmid, hvalue, hskip, hafter]
  simp only [List.append_assoc, List.cons_append]

end

/-! ### Strings -/

/-- The grammar has the same hexadecimal digits. -/
theorem mem_hexDigits {c : Char} {n : Nat} (h : hexValue? c = some n) : (c, n) ∈ hexDigits := by
  have hall : ∀ k < 103, ∀ n ∈ hexValue? (Char.ofNat k), (Char.ofNat k, n) ∈ hexDigits := by decide
  have hlt : c.toNat < 103 := by
    unfold hexValue? at h
    split_ifs at h with hdigit hlower hupper
    · exact Nat.lt_of_le_of_lt (m := 57) hdigit.2 (by decide)
    · exact Nat.lt_of_le_of_lt (m := 102) hlower.2 (by decide)
    · exact Nat.lt_of_le_of_lt (m := 70) hupper.2 (by decide)
  rw [← Char.ofNat_toNat c] at h ⊢
  exact hall _ hlt n h

/-- Whatever counts as a digit is one byte long. -/
theorem exists_mem_hexDigits {c : Char} (h : (hexValue? c).isSome = true) :
    (∃ n, (c, n) ∈ hexDigits) ∧ c.utf8Size = 1 := by
  obtain ⟨n, hn⟩ := Option.isSome_iff_exists.mp h
  exact ⟨⟨n, mem_hexDigits hn⟩, (hexValue?_of_mem (mem_hexDigits hn)).2⟩

/-- Four digits make a code. -/
theorem characters_of_digits {digits others : List Char} {signs : List Sign}
    (hlength : digits.length = 4) (hdigits : ∀ d ∈ digits, ∃ n, (d, n) ∈ hexDigits)
    (h : Characters others signs) :
    ∃ signs, Characters ('\\' :: 'u' :: (digits ++ others)) signs := by
  obtain ⟨d₁, d₂, d₃, d₄, rfl⟩ := List.length_eq_four.mp hlength
  simp only [List.forall_mem_cons, List.not_mem_nil, false_implies, implies_true, and_true]
    at hdigits
  obtain ⟨⟨n₁, h₁⟩, ⟨n₂, h₂⟩, ⟨n₃, h₃⟩, ⟨n₄, h₄⟩⟩ := hdigits
  exact ⟨_, .code h₁ h₂ h₃ h₄ h⟩

/-- And the same short escapes. -/
theorem mem_shortEscapes {c d : Char} (h : shortEscape? c = some d) : (c, d) ∈ shortEscapes := by
  unfold shortEscape? at h
  split_ifs at h <;> cases h <;> subst_vars <;> decide

/-- What is left of a string, from a place inside it up to its closing
quote. -/
def Passing.Spelled : Passing → List Char → Prop
  | .outside, cs => ∃ signs, Characters cs signs
  | .opened, cs => ∃ signs, Characters ('\\' :: cs) signs
  | .hex left valid, cs =>
    0 < left → valid = true ∧ ∃ digits others signs, cs = digits ++ others ∧ digits.length = left ∧
      (∀ d ∈ digits, ∃ n, (d, n) ∈ hexDigits) ∧ Characters others signs

/-- A string that is passed over is spelled correctly. -/
theorem spelled_of_passString {passing : Passing} {cs rest : List Char}
    (h : passString passing cs = .ok rest) :
    ∃ key, passing.Spelled key ∧ cs = key ++ '"' :: rest := by
  induction cs generalizing passing with
  | nil => cases passing <;> cases h
  | cons c cs ih =>
      cases passing with
      | outside =>
          simp only [passString] at h
          split_ifs at h with hquote hslash hcontrol
          · cases h
            exact ⟨[], ⟨[], .nil⟩, by rw [hquote, List.nil_append]⟩
          · obtain ⟨key, ⟨signs, hkey⟩, rfl⟩ := ih h
            exact ⟨'\\' :: key, ⟨signs, hkey⟩, by rw [hslash, List.cons_append]⟩
          · obtain ⟨key, ⟨signs, hkey⟩, rfl⟩ := ih h
            exact ⟨c :: key, ⟨_, .plain (isPlain_iff.mpr ⟨by omega, hquote, hslash⟩) hkey⟩, rfl⟩
      | opened =>
          simp only [passString] at h
          split_ifs at h with hshort hu
          · obtain ⟨d, hd⟩ := Option.isSome_iff_exists.mp hshort
            obtain ⟨key, ⟨signs, hkey⟩, rfl⟩ := ih h
            exact ⟨c :: key, ⟨_, .short (mem_shortEscapes hd) hkey⟩, rfl⟩
          · obtain ⟨key, hkey, rfl⟩ := ih h
            obtain ⟨-, digits, others, signs, rfl, hlength, hdigits, hothers⟩ := hkey (by decide)
            refine ⟨'u' :: (digits ++ others), characters_of_digits hlength hdigits hothers, ?_⟩
            rw [hu, List.cons_append]
      | hex left valid =>
          -- Bytes are counted here. In the end all of them are digits, of one byte each.
          simp only [passString] at h
          split_ifs at h with hsize hvalid
          · obtain ⟨key, hkey, rfl⟩ := ih h
            refine ⟨c :: key, fun _ => ?_, rfl⟩
            obtain ⟨hvalid, digits, others, signs, rfl, hlength, hdigits, hothers⟩ :=
              hkey (Nat.sub_pos_of_lt hsize)
            rw [Bool.and_eq_true] at hvalid
            obtain ⟨hc, hone⟩ := exists_mem_hexDigits hvalid.2
            refine ⟨hvalid.1, c :: digits, others, signs, rfl, ?_, ?_, hothers⟩
            · rw [List.length_cons]
              omega
            · exact List.forall_mem_cons.mpr ⟨hc, hdigits⟩
          · obtain ⟨key, ⟨signs, hkey⟩, rfl⟩ := ih h
            refine ⟨c :: key, fun hpos => ?_, rfl⟩
            rw [Bool.and_eq_true] at hvalid
            obtain ⟨hc, hone⟩ := exists_mem_hexDigits hvalid.2
            refine ⟨hvalid.1, [c], key, signs, rfl, ?_, ?_, hkey⟩
            · rw [List.length_singleton]
              omega
            · exact List.forall_mem_singleton.mpr hc

/-- The characters of a string after its opening quote. -/
theorem characters_of_passString {cs rest : List Char} (h : passString .outside cs = .ok rest) :
    ∃ key signs, Characters key signs ∧ cs = key ++ '"' :: rest := by
  obtain ⟨key, ⟨signs, hkey⟩, hcs⟩ := spelled_of_passString h
  exact ⟨key, signs, hkey, hcs⟩

/-- A string that is read could also be passed over. -/
theorem passString_of_string {cs rest : List Char} {s : String} (h : string cs = .ok (s, rest)) :
    passString .outside cs = .ok rest := by
  have htracks := tracks_passString .outside [] cs
  rw [← string, h] at htracks
  obtain ⟨_, hpass, rfl⟩ := htracks.exists_of_ok
  exact hpass

/-! ### Numerals -/

/-- The rest of a run of digits. -/
theorem digits_takeWhile (cs : List Char) : Digits (cs.takeWhile Char.isDigit) := fun _ hc =>
  List.mem_takeWhile_imp hc

/-- The digits before the point. -/
theorem whole_of_wholeDigits {cs digits rest : List Char}
    (h : wholeDigits cs = .ok (digits, rest)) : Whole digits ∧ cs = digits ++ rest := by
  cases cs with
  | nil => cases h
  | cons c cs =>
      simp only [wholeDigits] at h
      split_ifs at h with hzero _ hc
      · cases h
        subst hzero
        exact ⟨.zero, rfl⟩
      · cases h
        refine ⟨.digits hc hzero (digits_takeWhile cs), ?_⟩
        rw [List.cons_append, List.takeWhile_append_dropWhile]

/-- The digits behind it. -/
theorem fraction_of_fractionDigits {cs digits rest : List Char}
    (h : fractionDigits cs = .ok (digits, rest)) : ∃ v, Fraction v ∧ cs = v ++ rest := by
  unfold fractionDigits at h
  split at h
  · cases h
  · next c cs =>
      split_ifs at h with hc
      cases h
      refine ⟨_, .digits hc (digits_takeWhile cs), ?_⟩
      rw [List.cons_append, List.cons_append, List.takeWhile_append_dropWhile]
  · cases h
    exact ⟨[], .none, rfl⟩

/-- The sign of an exponent. -/
theorem sign_of_exponentSign {cs mid : List Char} {negative : Bool}
    (h : exponentSign cs = (negative, mid)) :
    ∃ sign, (sign = [] ∨ sign = ['+'] ∨ sign = ['-']) ∧ cs = sign ++ mid := by
  unfold exponentSign at h
  split at h <;> cases h
  · exact ⟨['+'], .inr (.inl rfl), rfl⟩
  · exact ⟨['-'], .inr (.inr rfl), rfl⟩
  · exact ⟨[], .inl rfl, rfl⟩

/-- An exponent, if there is one. -/
theorem exponent_of_exponentPart {cs rest : List Char} {e : Option Exponent}
    (h : exponentPart cs = .ok (e, rest)) : ∃ v, Grammar.Exponent v ∧ cs = v ++ rest := by
  cases cs with
  | nil =>
      cases h
      exact ⟨[], .none, rfl⟩
  | cons mark cs =>
      simp only [exponentPart] at h
      split_ifs at h with hmark
      · obtain ⟨⟨e, _⟩, hbody, hend⟩ := except_bind_eq_ok_iff.mp h
        cases hend
        unfold exponentBody at hbody
        rcases hsigned : exponentSign cs with ⟨negative, digits⟩
        rw [hsigned] at hbody
        obtain ⟨sign, hsign, rfl⟩ := sign_of_exponentSign hsigned
        cases digits with
        | nil => cases hbody
        | cons c digits =>
            dsimp only at hbody
            split_ifs at hbody with hc
            cases hbody
            refine ⟨_, .digits (by simpa using hmark) hsign hc (digits_takeWhile digits), ?_⟩
            rw [List.cons_append, List.append_assoc, List.cons_append,
              List.takeWhile_append_dropWhile]
      · cases h
        exact ⟨[], .none, rfl⟩

/-- The sign of a numeral. -/
theorem sign_of_numeralSign {cs mid : List Char} {negative : Bool}
    (h : numeralSign cs = (negative, mid)) :
    ∃ sign, (sign = [] ∨ sign = ['-']) ∧ cs = sign ++ mid := by
  unfold numeralSign at h
  split at h <;> cases h
  · exact ⟨['-'], .inr rfl, rfl⟩
  · exact ⟨[], .inl rfl, rfl⟩

/-- A numeral that is read is spelled correctly. -/
theorem numeral_of_numeral {cs rest : List Char} {n : Numeral} (h : numeral cs = .ok (n, rest)) :
    ∃ v, Grammar.Numeral v ∧ cs = v ++ rest := by
  unfold numeral at h
  rcases hsigned : numeralSign cs with ⟨negative, mid⟩
  rw [hsigned] at h
  obtain ⟨⟨whole, mid⟩, hwhole', h⟩ := except_bind_eq_ok_iff.mp h
  obtain ⟨⟨_, mid'⟩, hfraction', h⟩ := except_bind_eq_ok_iff.mp h
  obtain ⟨⟨_, _⟩, hexponent', hend⟩ := except_bind_eq_ok_iff.mp h
  cases hend
  obtain ⟨sign, hsign, rfl⟩ := sign_of_numeralSign hsigned
  obtain ⟨hwhole, rfl⟩ := whole_of_wholeDigits hwhole'
  obtain ⟨fraction, hfraction, rfl⟩ := fraction_of_fractionDigits hfraction'
  obtain ⟨exponent, hexponent, rfl⟩ := exponent_of_exponentPart hexponent'
  refine ⟨_, .mk hsign hwhole hfraction hexponent, ?_⟩
  simp only [List.append_assoc]

/-! ### Single values -/

/-- A word that is found. -/
theorem eq_append_of_word {expected cs rest : List Char} (h : word expected cs = .ok rest) :
    cs = expected ++ rest := by
  induction expected generalizing cs with
  | nil =>
      cases h
      rfl
  | cons e expected ih =>
      cases cs with
      | nil => cases h
      | cons c cs =>
          simp only [word] at h
          split_ifs at h with hc
          rw [hc, ih h, List.cons_append]

/-- One of the words with a value. -/
theorem Front.word {c : Char} {cs mid rest : List Char} {tree : Tree}
    (hmem : (c :: cs, tree) ∈ words) (h : word cs mid = .ok rest) :
    Front .value (c :: mid) rest := by
  rw [eq_append_of_word h]
  exact ⟨tree, _, .word hmem, rfl⟩

/-- The same where something is made of the word. -/
theorem Front.word_bind {α : Type} {c : Char} {cs mid rest : List Char} {tree : Tree} {a b : α}
    (hmem : (c :: cs, tree) ∈ words)
    (h : (Scan.word cs mid >>= fun rest => .ok (a, rest)) = .ok (b, rest)) :
    Front .value (c :: mid) rest := by
  obtain ⟨_, hword, hend⟩ := except_bind_eq_ok_iff.mp h
  cases hend
  exact .word hmem hword

/-- A string after its opening quote. -/
theorem Front.string {cs rest : List Char} (h : passString .outside cs = .ok rest) :
    Front .value ('"' :: cs) rest := by
  obtain ⟨key, signs, hkey, rfl⟩ := characters_of_passString h
  refine ⟨_, _, .string hkey, ?_⟩
  rw [List.cons_append, List.append_assoc, List.singleton_append]

/-- A numeral. -/
theorem Front.numeral {cs rest : List Char} {n : Numeral} (h : numeral cs = .ok (n, rest)) :
    Front .value cs rest := by
  obtain ⟨v, hv, hcs⟩ := numeral_of_numeral h
  exact ⟨_, v, .numeral hv, hcs⟩

/-- An array after its opening bracket. -/
theorem Front.array {cs rest : List Char} (h : Front (.items true) cs rest) :
    Front .value ('[' :: cs) rest := by
  obtain ⟨trees, v, hv, rfl⟩ := h
  exact ⟨_, _, .array hv, rfl⟩

/-- An object after its opening brace. -/
theorem Front.object {cs rest : List Char} (h : Front (.entries true) cs rest) :
    Front .value ('\x7b' :: cs) rest := by
  obtain ⟨es, v, hv, rfl⟩ := h
  exact ⟨_, _, .object hv, rfl⟩

/-! ### Places inside arrays and objects -/

section

variable {first : Bool} {cs mid rest : List Char}

/-- The place before an item. -/
theorem separator_of_passMark (h : passMark first cs = .ok (true, mid)) :
    ∃ sep, Separator first sep ∧ cs = sep ++ skipSpaces mid := by
  unfold passMark at h
  split at h
  · cases h
  · cases h
  · next c after _ hcs =>
      split_ifs at h with hfirst hcomma
      · cases h
        subst hfirst
        rw [← hcs, skipSpaces_skipSpaces]
        exact separator_start cs
      · cases h
        rw [Bool.not_eq_true] at hfirst
        subst hfirst hcomma
        exact separator_comma hcs

/-- The end of an array. -/
theorem skipSpaces_of_passMark (h : passMark first cs = .ok (false, rest)) :
    skipSpaces cs = ']' :: rest := by
  unfold passMark at h
  split at h
  · cases h
  · next hcs => cases h; exact hcs
  · split_ifs at h <;> cases h

/-- The place before an item that is read. -/
theorem separator_of_nextItem (h : nextItem first cs = .ok (true, mid)) :
    ∃ sep, Separator first sep ∧ cs = sep ++ skipSpaces mid := by
  have htracks := tracks_passMark first cs
  rw [h] at htracks
  obtain ⟨⟨more, mid'⟩, hpass, hmore, hmid⟩ := htracks.exists_of_ok
  obtain rfl : more = true := hmore
  obtain ⟨sep, hsep, hcs⟩ := separator_of_passMark hpass
  refine ⟨sep, hsep, ?_⟩
  obtain rfl | ⟨-, rfl⟩ : mid' = mid ∨ true = true ∧ skipSpaces mid' = mid := hmid
  · exact hcs
  · rw [skipSpaces_skipSpaces]
    exact hcs

/-- The end of an array that is read. -/
theorem skipSpaces_of_nextItem (h : nextItem first cs = .ok (false, rest)) :
    skipSpaces cs = ']' :: rest := by
  have htracks := tracks_passMark first cs
  rw [h] at htracks
  obtain ⟨⟨more, rest'⟩, hpass, hmore, hrest⟩ := htracks.exists_of_ok
  obtain rfl : more = false := hmore
  obtain rfl | ⟨⟨⟩, -⟩ : rest' = rest ∨ false = true ∧ skipSpaces rest' = rest := hrest
  exact skipSpaces_of_passMark hpass

/-- A key. -/
theorem key_of_nextKey {name : String} (h : nextKey first cs = .ok (some name, rest)) :
    ∃ sep key signs, Separator first sep ∧ Characters key signs ∧
      cs = sep ++ '"' :: (key ++ '"' :: rest) := by
  -- The quote stands at the front, or behind the comma.
  obtain ⟨start, ⟨sep, hsep, hcs⟩, hstring⟩ : ∃ start,
      (∃ sep, Separator first sep ∧ cs = sep ++ '"' :: start) ∧
        string start = .ok (name, rest) := by
    unfold nextKey at h
    split at h
    · cases h
    · cases h
    · next c behind _ hcs =>
        cases first with
        | true =>
            rw [if_pos rfl] at h
            split_ifs at h with hquote
            subst hquote
            obtain ⟨⟨_, _⟩, hstring, hend⟩ := except_bind_eq_ok_iff.mp h
            cases hend
            refine ⟨behind, ?_, hstring⟩
            rw [← hcs]
            exact separator_start cs
        | false =>
            rw [if_neg (by decide)] at h
            split_ifs at h with hcomma
            subst hcomma
            split at h
            · cases h
            · next after hafter =>
                obtain ⟨⟨_, _⟩, hstring, hend⟩ := except_bind_eq_ok_iff.mp h
                cases hend
                refine ⟨after, ?_, hstring⟩
                rw [← hafter]
                exact separator_comma hcs
            · cases h
            · cases h
  obtain ⟨key, signs, hkey, rfl⟩ := characters_of_passString (passString_of_string hstring)
  exact ⟨sep, key, signs, hsep, hkey, hcs⟩

/-- The end of an object. -/
theorem skipSpaces_of_nextKey (h : nextKey first cs = .ok (none, rest)) :
    skipSpaces cs = '\x7d' :: rest := by
  unfold nextKey at h
  split at h
  · cases h
  · next hcs => cases h; exact hcs
  · split_ifs at h
    · obtain ⟨_, -, hend⟩ := except_bind_eq_ok_iff.mp h
      cases hend
    · split at h
      · cases h
      · obtain ⟨_, -, hend⟩ := except_bind_eq_ok_iff.mp h
        cases hend
      · cases h
      · cases h

/-- A key that is passed over. -/
theorem characters_of_passKey (h : passKey cs = .ok rest) :
    ∃ key signs, Characters key signs ∧ skipSpaces cs = '"' :: (key ++ '"' :: rest) := by
  unfold passKey at h
  split at h
  · cases h
  · next hcs =>
      obtain ⟨key, signs, hkey, hafter⟩ := characters_of_passString h
      exact ⟨key, signs, hkey, by rw [hcs, hafter]⟩
  · cases h

/-- A key and its colon. -/
theorem key_of_passNextKey (h : passNextKey first cs = .ok (true, mid)) :
    ∃ sep key signs after, Separator first sep ∧ Characters key signs ∧
      cs = sep ++ '"' :: (key ++ '"' :: after) ∧ colon after = .ok mid := by
  -- The key is looked for at the front, or behind the comma.
  obtain ⟨start, ⟨sep, hsep, hcs⟩, h⟩ : ∃ start,
      (∃ sep, Separator first sep ∧ cs = sep ++ skipSpaces start) ∧
        (passKey start >>= fun rest => colon rest >>= fun rest => .ok (true, rest)) =
          .ok (true, mid) := by
    unfold passNextKey at h
    split at h
    · cases h
    · cases h
    · next c behind _ hcs =>
        cases first with
        | true =>
            refine ⟨c :: behind, ?_, h⟩
            rw [← hcs, skipSpaces_skipSpaces]
            exact separator_start cs
        | false =>
            simp only [Bool.false_or, decide_eq_true_eq] at h
            split at h
            · next hcomma =>
                subst hcomma
                exact ⟨behind, separator_comma hcs, h⟩
            · cases h
  obtain ⟨after, hkey, h⟩ := except_bind_eq_ok_iff.mp h
  obtain ⟨_, hcolon, hend⟩ := except_bind_eq_ok_iff.mp h
  cases hend
  obtain ⟨key, signs, hkey, hskip⟩ := characters_of_passKey hkey
  exact ⟨sep, key, signs, after, hsep, hkey, by rw [hcs, hskip], hcolon⟩

/-- The end of an object. -/
theorem skipSpaces_of_passNextKey (h : passNextKey first cs = .ok (false, rest)) :
    skipSpaces cs = '\x7d' :: rest := by
  unfold passNextKey at h
  split at h
  · cases h
  · next hcs => cases h; exact hcs
  · split at h
    · obtain ⟨_, -, h⟩ := except_bind_eq_ok_iff.mp h
      obtain ⟨_, -, hend⟩ := except_bind_eq_ok_iff.mp h
      cases hend
    · cases h

end

/-! ### Values that are read -/

/-- Whatever a scan takes off a text is one value, with or without blanks
in front of it. -/
def Accepts {α : Type} (p : Scan α) : Prop :=
  ∀ ⦃cs a rest⦄, p cs = .ok (a, rest) → Front .value (skipSpaces cs) rest

/-- The items of an array. -/
theorem items_of_itemsFrom {α : Type} {item : Scan α} (hitem : item.Accepts) {limit : Nat}
    {first : Bool} {seen xs : List α} {cs rest : List Char}
    (h : itemsFrom item limit first seen cs = .ok (xs, rest)) : Front (.items first) cs rest := by
  induction limit generalizing first seen cs with
  | zero => cases h
  | succ limit ih =>
      obtain ⟨⟨more, mid⟩, hnext, h⟩ := except_bind_eq_ok_iff.mp h
      cases more with
      | false =>
          cases h
          exact .itemsEnd (skipSpaces_of_nextItem hnext)
      | true =>
          obtain ⟨⟨x, after⟩, hx, hrest⟩ := except_bind_eq_ok_iff.mp h
          obtain ⟨sep, hsep, hcs⟩ := separator_of_nextItem hnext
          exact .item hsep hcs (hitem hx) (ih hrest)

/-- The entries of an object. An entry is read from its colon on. -/
theorem entries_of_entriesFrom {σ : Type} {entry : σ → String → Scan σ}
    (hentry : ∀ {s name cs s' rest}, entry s name cs = .ok (s', rest) → EntryFront cs rest)
    {limit : Nat} {first : Bool} {s s' : σ} {cs rest : List Char}
    (h : entriesFrom entry limit first s cs = .ok (s', rest)) : Front (.entries first) cs rest := by
  induction limit generalizing first s cs with
  | zero => cases h
  | succ limit ih =>
      obtain ⟨⟨name, mid⟩, hnext, h⟩ := except_bind_eq_ok_iff.mp h
      cases name with
      | none =>
          cases h
          exact .entriesEnd (skipSpaces_of_nextKey hnext)
      | some name =>
          obtain ⟨⟨s₁, after⟩, hs₁, hrest⟩ := except_bind_eq_ok_iff.mp h
          obtain ⟨sep, key, signs, hsep, hkey, hcs⟩ := key_of_nextKey hnext
          exact .entry hsep hkey hcs (hentry hs₁) (ih hrest)

/-- The value of an entry. -/
theorem value_of_member {α : Type} {inner : Scan α} (hinner : inner.Accepts) {s s' : Entries α}
    {name : String} {cs rest : List Char} (h : member inner s name cs = .ok (s', rest)) :
    EntryFront cs rest := by
  obtain ⟨value, hcolon, h⟩ := except_bind_eq_ok_iff.mp h
  obtain ⟨⟨a, _⟩, hvalue, hend⟩ := except_bind_eq_ok_iff.mp h
  cases hend
  exact .of_colon hcolon (hinner hvalue)

/-- The numeral of a number. -/
theorem numeral_of_number {α : Type} {number? : Numeral → Option α} {a : α} {cs rest : List Char}
    (h : number number? cs = .ok (a, rest)) : ∃ n, numeral cs = .ok (n, rest) := by
  obtain ⟨⟨n, mid⟩, hnumeral, h⟩ := except_bind_eq_ok_iff.mp h
  dsimp only at h
  split at h
  · cases h
    exact ⟨n, hnumeral⟩
  · cases h

/-- A value is read if its parts are. -/
theorem accepts_valueWith {α : Type} {build : Builder α} {inner : Option (Scan α)}
    (hinner : ∀ p ∈ inner, p.Accepts) : (valueWith build inner).Accepts := by
  intro cs a rest h
  unfold valueWith at h
  split at h
  · cases h
  · next hcs =>
      rw [hcs]
      exact .word_bind (.head _) h
  · next hcs =>
      rw [hcs]
      exact .word_bind (.tail _ (.head _)) h
  · next hcs =>
      rw [hcs]
      exact .word_bind (.tail _ (.tail _ (.head _))) h
  · next hcs =>
      obtain ⟨⟨_, _⟩, hstring, hend⟩ := except_bind_eq_ok_iff.mp h
      cases hend
      rw [hcs]
      exact .string (passString_of_string hstring)
  · next hcs =>
      split at h
      · cases h
      · next inner =>
          obtain ⟨⟨_, _⟩, hitems, hend⟩ := except_bind_eq_ok_iff.mp h
          cases hend
          rw [hcs]
          exact .array (items_of_itemsFrom (hinner inner rfl) hitems)
  · next hcs =>
      split at h
      · cases h
      · next inner =>
          obtain ⟨⟨_, _⟩, hentries, hend⟩ := except_bind_eq_ok_iff.mp h
          cases hend
          rw [hcs]
          exact .object (entries_of_entriesFrom (value_of_member (hinner inner rfl)) hentries)
  · next hcs =>
      split_ifs at h
      obtain ⟨n, hnumeral⟩ := numeral_of_number h
      rw [hcs]
      exact .numeral hnumeral

/-- A value that is read is spelled correctly. -/
theorem accepts_valueOf {α : Type} (build : Builder α) (levels : Nat) :
    (valueOf build levels).Accepts := by
  induction levels with
  | zero => exact accepts_valueWith (by rintro _ ⟨⟩)
  | succ levels ih =>
      refine accepts_valueWith ?_
      rintro _ ⟨⟩
      exact ih

/-! ### Values of a wanted kind -/

/-- Strings. -/
theorem accepts_text : text.Accepts := by
  intro cs s rest h
  unfold text at h
  split at h
  · next hcs =>
      rw [hcs]
      exact .string (passString_of_string h)
  · cases h

/-- Lists of strings. -/
theorem accepts_texts : texts.Accepts := by
  intro cs xs rest h
  unfold texts at h
  split at h
  · next hcs =>
      rw [hcs]
      exact .array (items_of_itemsFrom accepts_text h)
  · cases h

/-- Values that may be `null`. -/
theorem Accepts.optional {α : Type} {item : Scan α} (hitem : item.Accepts) :
    (optional item).Accepts := by
  intro cs x rest h
  unfold Scan.optional at h
  split at h
  · next hcs =>
      rw [hcs]
      exact .word_bind (.head _) h
  · obtain ⟨⟨x, _⟩, hitem', hend⟩ := except_bind_eq_ok_iff.mp h
    cases hend
    have hfront := hitem hitem'
    rwa [skipSpaces_skipSpaces] at hfront

/-! ### Values that are passed over -/

section

variable {next : Bool → Scan Bool} {inner : Scan Unit} {limit : Nat} {first : Bool}
  {cs rest : List Char}

/-- Parts are passed over one by one: what holds at the end of them, and
in front of a part if it holds behind it, holds in front of them all. -/
theorem of_passParts {P : Bool → List Char → Prop}
    (hend : ∀ {first cs}, next first cs = .ok (false, rest) → P first cs)
    (hpart : ∀ {first cs mid after}, next first cs = .ok (true, mid) →
      inner mid = .ok ((), after) → P false after → P first cs)
    (h : passParts next inner limit first cs = .ok ((), rest)) : P first cs := by
  induction limit generalizing first cs with
  | zero => cases h
  | succ limit ih =>
      obtain ⟨⟨more, mid⟩, hnext, h⟩ := except_bind_eq_ok_iff.mp h
      cases more with
      | false =>
          cases h
          exact hend hnext
      | true =>
          obtain ⟨⟨⟨⟩, after⟩, hinner, hrest⟩ := except_bind_eq_ok_iff.mp h
          exact hpart hnext hinner (ih hrest)

/-- The items of an array. -/
theorem items_of_passParts (hinner : inner.Accepts)
    (h : passParts passMark inner limit first cs = .ok ((), rest)) :
    Front (.items first) cs rest := by
  refine of_passParts (P := fun first cs => Front (.items first) cs rest) ?_ ?_ h
  · intro first cs hnext
    exact .itemsEnd (skipSpaces_of_passMark hnext)
  · intro first cs mid after hnext hitem hrest
    obtain ⟨sep, hsep, hcs⟩ := separator_of_passMark hnext
    exact .item hsep hcs (hinner hitem) hrest

/-- The entries of an object. -/
theorem entries_of_passParts (hinner : inner.Accepts)
    (h : passParts passNextKey inner limit first cs = .ok ((), rest)) :
    Front (.entries first) cs rest := by
  refine of_passParts (P := fun first cs => Front (.entries first) cs rest) ?_ ?_ h
  · intro first cs hnext
    exact .entriesEnd (skipSpaces_of_passNextKey hnext)
  · intro first cs mid after hnext hvalue hrest
    obtain ⟨sep, key, signs, behind, hsep, hkey, hcs, hcolon⟩ := key_of_passNextKey hnext
    exact .entry hsep hkey hcs (.of_colon hcolon (hinner hvalue)) hrest

end

/-- A value is passed over if its parts are. -/
theorem accepts_passWith {inner : Scan Unit} (hinner : inner.Accepts) :
    (passWith inner).Accepts := by
  intro cs _ rest h
  unfold passWith at h
  split at h
  · next hcs =>
      obtain ⟨after, hstring, hend⟩ := except_bind_eq_ok_iff.mp h
      cases hend
      rw [hcs]
      exact .string hstring
  · next hcs =>
      rw [hcs]
      exact .array (items_of_passParts hinner h)
  · next hcs =>
      rw [hcs]
      exact .object (entries_of_passParts hinner h)
  · next hcs =>
      split_ifs at h
      · obtain ⟨after, hnumeral, hend⟩ := except_bind_eq_ok_iff.mp h
        cases hend
        unfold passNumeral at hnumeral
        split at hnumeral
        · next hnumeral' =>
            cases hnumeral
            rw [hcs]
            exact .numeral hnumeral'
        · cases hnumeral
      · obtain ⟨⟨_, after⟩, hvalue, hend⟩ := except_bind_eq_ok_iff.mp h
        cases hend
        have hword := accepts_valueWith (by rintro _ ⟨⟩) hvalue
        rwa [← hcs, skipSpaces_skipSpaces] at hword
  · cases h

/-- Values of any depth. -/
theorem accepts_passLevels (levels : Nat) : (passLevels levels).Accepts := by
  induction levels with
  | zero =>
      intro _ _ _ h
      cases h
  | succ levels ih => exact accepts_passWith ih

/-- A value that is passed over is spelled correctly. -/
theorem accepts_pass : pass.Accepts := fun _ _ _ h =>
  accepts_passLevels _ h

end FilterSql.Json.Scan
