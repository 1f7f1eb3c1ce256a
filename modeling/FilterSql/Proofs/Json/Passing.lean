import FilterSql.Json.Pass
import FilterSql.Proofs.Json.Tracks

/-!
# `FilterSql.Proofs.Json.Passing`: passing over a value

A value that nobody asked for is passed over by a scan that is laxer
than the reader of values. Where the two both succeed they end at the
same place (`Scan.tracks_pass`), so an entry that is passed over never
swallows a part of the next one.

Strings are compared state by state (`Scan.Passing.Behind`): the lax scan
knows how far it is in an escape, but not that a surrogate waits for its
second half.
-/

set_option autoImplicit false

namespace FilterSql.Json.Scan

/-! ### Strings -/

/-- The places inside a string as the lax scan sees them. -/
inductive Passing.Behind : Passing → Escape → Prop where
  | outside : Behind .outside .outside
  | opened : Behind .opened .opened
  | hex (lead : Option Nat) (left : Nat) {code : Option Nat} {valid : Bool}
    (hvalid : valid = code.isSome) : Behind (.hex left valid) (.hex lead left code)
  | paired (lead : Nat) : Behind .outside (.paired lead)
  | pairedOpened (lead : Nat) : Behind .opened (.pairedOpened lead)

/-- Both scans are at the start of a code. -/
theorem Passing.Behind.hexStart (lead : Option Nat) :
    Behind (.hex 4 true) (.hexStart lead) :=
  .hex lead 4 rfl

/-- A code is valid as long as all characters have been digits. -/
theorem isSome_pushHex (code : Option Nat) (c : Char) :
    (pushHex code c).isSome = (code.isSome && (hexValue? c).isSome) := by
  cases code <;> simp [pushHex]

/-- A string that is read is also passed over, up to the same quote. -/
theorem tracks_passString {passing : Passing} {escape : Escape} (h : passing.Behind escape)
    (seen cs : List Char) :
    Tracks False (fun x rest => rest = x.2) (stringFrom seen escape cs) (passString passing cs) := by
  induction cs generalizing passing escape seen with
  | nil => cases h <;> trivial
  | cons c cs ih =>
      cases h with
      | outside =>
          simp only [passString, stringFrom]
          split
          · rfl
          split
          · exact ih .opened seen
          split
          · trivial
          · exact ih .outside _
      | opened =>
          simp only [passString, stringFrom]
          cases shortEscape? c with
          | some d => exact ih .outside _
          | none =>
              simp only [Option.isSome_none, Bool.false_eq_true, if_false]
              split
              · exact ih (.hexStart none) seen
              · trivial
      | @hex lead left code valid hvalid =>
          have hpush : (valid && (hexValue? c).isSome) = (pushHex code c).isSome := by
            rw [isSome_pushHex, hvalid]
          simp only [passString, stringFrom, hpush]
          split
          · exact ih (.hex lead _ rfl) seen
          -- The last digit: without a code both fail, and with one the lax scan goes on.
          cases pushHex code c with
          | none => trivial
          | some n =>
              simp only [Option.isSome_some, if_true]
              cases lead with
              | none =>
                  dsimp only
                  split
                  · trivial
                  split
                  · exact ih (.paired n) seen
                  · exact ih .outside _
              | some l =>
                  dsimp only
                  split
                  · exact ih .outside _
                  · trivial
      | paired lead =>
          rw [stringFrom]
          split
          · next hc =>
              subst hc
              exact ih (.pairedOpened lead) seen
          · trivial
      | pairedOpened lead =>
          rw [stringFrom]
          split
          · next hc =>
              subst hc
              exact ih (.hexStart (some lead)) seen
          · trivial

/-! ### Arrays and objects -/

/-- Both scans look for the next item in the same way. The stricter one
has already skipped the blanks in front of it. -/
theorem tracks_passMark (first : Bool) (cs : List Char) :
    Tracks False (fun x y => y.1 = x.1 ∧ (y.2 = x.2 ∨ y.1 = true ∧ skipSpaces y.2 = x.2))
      (nextItem first cs) (passMark first cs) := by
  cases hcs : skipSpaces cs with
  | nil => simp only [nextItem, hcs]; trivial
  | cons c rest =>
      by_cases hend : c = ']'
      · subst hend
        simp only [passMark, nextItem, hcs]
        exact ⟨rfl, .inl rfl⟩
      cases first with
      | true =>
          simp only [passMark, nextItem, hcs, if_true]
          exact ⟨rfl, .inl rfl⟩
      | false =>
          by_cases hcomma : c = ','
          · subst hcomma
            simp only [passMark, nextItem, hcs, if_true, Bool.false_eq_true, if_false]
            -- Here the stricter scan may refuse what follows the comma.
            split
            · trivial
            · trivial
            · exact ⟨rfl, .inr ⟨rfl, rfl⟩⟩
          · simp only [nextItem, hcs, hcomma, Bool.false_eq_true, if_false]
            trivial

/-- The places that the two scans come to when they look for a key: the
lax one has already gone over the colon. -/
structure AtKey (x : Bool × List Char) (y : Option String × List Char) : Prop where
  more : x.1 = y.1.isSome
  ended : x.1 = false → x.2 = y.2
  found : x.1 = true → colon y.2 = .ok x.2

/-- A key: the lax scan also goes over the colon. -/
theorem tracks_passKey (rest : List Char) :
    Tracks True AtKey
      (passString .outside rest >>= fun rest => colon rest >>= fun rest => .ok (true, rest))
      (string rest >>= fun (key, rest) => .ok (some key, rest)) := by
  refine .bind (tracks_passString .outside [] rest).flip ?_
  rintro rest ⟨key, _⟩ rfl
  cases hcolon : colon rest with
  | error e => trivial
  | ok after => exact ⟨rfl, by rintro ⟨⟩, fun _ => hcolon⟩

/-- Without a quote there is no key. -/
theorem passKey_of_ne {cs rest : List Char} {c : Char} (hcs : skipSpaces cs = c :: rest)
    (hquote : c ≠ '"') : passKey cs = .error ⟨.keyExpected, c :: rest, 1⟩ := by
  simp only [passKey, hcs]
  split <;> simp_all

/-- Both scans look for the next key in the same way. -/
theorem tracks_passNextKey (first : Bool) (cs : List Char) :
    Tracks True AtKey (passNextKey first cs) (nextKey first cs) := by
  cases hcs : skipSpaces cs with
  | nil => simp only [passNextKey, hcs]; trivial
  | cons c rest =>
      have hskip : skipSpaces (c :: rest) = c :: rest := by rw [← hcs, skipSpaces_skipSpaces]
      by_cases hend : c = '\x7d'
      · subst hend
        simp only [passNextKey, nextKey, hcs]
        exact ⟨rfl, fun _ => rfl, by rintro ⟨⟩⟩
      cases first with
      | true =>
          simp only [passNextKey, nextKey, hcs, Bool.true_or, if_true]
          by_cases hquote : c = '"'
          · subst hquote
            simp only [passKey, hskip]
            exact tracks_passKey rest
          · rw [passKey_of_ne hskip hquote]
            trivial
      | false =>
          by_cases hcomma : c = ','
          · subst hcomma
            simp only [passNextKey, nextKey, hcs, decide_true, Bool.or_true, if_true,
              Bool.false_eq_true, if_false]
            -- Only a quote starts a key, and without one the lax scan fails.
            cases hrest : skipSpaces rest with
            | nil => simp only [passKey, hrest]; trivial
            | cons d after =>
                by_cases hquote : d = '"'
                · subst hquote
                  simp only [passKey, hrest]
                  exact tracks_passKey after
                · rw [passKey_of_ne hrest hquote]
                  trivial
          · simp only [passNextKey, hcs, hcomma, decide_false, Bool.or_self, Bool.false_eq_true,
              if_false]
            trivial

/-! ### Values -/

section

variable {lax : Scan Unit} {inner : Scan Json}

/-- Arrays end at the same bracket, item by item. -/
theorem tracks_passItems (hskip : ∀ cs, inner (skipSpaces cs) = inner cs)
    (h : ∀ cs, Tracks True (Abreast fun _ _ => True) (lax cs) (inner cs)) (limit : Nat) (first : Bool)
    (seen : List Json) (cs : List Char) :
    Tracks True (Abreast fun _ _ => True) (passParts passMark lax limit first cs)
      (itemsFrom inner limit first seen cs) := by
  induction limit generalizing first seen cs with
  | zero => trivial
  | succ limit ih =>
      refine .bind (tracks_passMark first cs).flip ?_
      rintro ⟨more, rest⟩ ⟨_, rest'⟩ ⟨rfl, hrest⟩
      cases more with
      | false =>
          obtain hrest | ⟨⟨⟩, -⟩ := hrest
          exact ⟨trivial, hrest⟩
      | true =>
          -- Behind a comma the lax scan has left blanks, which an item skips by itself.
          have hinner : inner rest' = inner rest := by
            obtain rfl | ⟨-, rfl⟩ : rest = rest' ∨ true = true ∧ skipSpaces rest = rest' := hrest
            · rfl
            · exact hskip rest
          simp only [if_true, hinner]
          refine .bind (h rest) ?_
          rintro ⟨-, after⟩ ⟨v, _⟩ ⟨-, rfl⟩
          exact ih false (v :: seen) after

/-- Objects end at the same brace, entry by entry. -/
theorem tracks_passEntries
    (h : ∀ cs, Tracks True (Abreast fun _ _ => True) (lax cs) (inner cs)) (limit : Nat) (first : Bool)
    (fields : Fields) (cs : List Char) :
    Tracks True (Abreast fun _ _ => True) (passParts passNextKey lax limit first cs)
      (entriesFrom (member inner) limit first fields cs) := by
  induction limit generalizing first fields cs with
  | zero => trivial
  | succ limit ih =>
      refine .bind (tracks_passNextKey first cs) ?_
      rintro ⟨more, rest⟩ ⟨key, rest'⟩ hkey
      cases key with
      | none =>
          obtain rfl : more = false := hkey.more
          exact ⟨trivial, hkey.ended rfl⟩
      | some key =>
          -- The lax scan is behind the colon; taking the other one there brings them together.
          obtain rfl : more = true := hkey.more
          simp only [if_true, member, hkey.found rfl, except_ok_bind, bind_assoc]
          refine .bind (h rest) ?_
          rintro ⟨-, after⟩ ⟨v, _⟩ ⟨-, rfl⟩
          exact ih false (fields.insert key v) after

end

/-- What has no parts is read in the same way whatever may be opened. -/
theorem valueWith_of_plain {α : Type} (build : Builder α) (inner : Option (Scan α))
    {cs rest : List Char} {c : Char} (hcs : skipSpaces cs = c :: rest) (hlist : c ≠ '[')
    (hobject : c ≠ '\x7b') : valueWith build inner cs = valueWith build none (c :: rest) := by
  have hskip : skipSpaces (c :: rest) = c :: rest := by rw [← hcs, skipSpaces_skipSpaces]
  simp only [valueWith, hcs, hskip]
  split <;> simp_all

/-- A sign or a digit starts a numeral. -/
theorem valueWith_of_numeral {α : Type} (build : Builder α) (inner : Option (Scan α))
    {rest : List Char} {c : Char} (hskip : skipSpaces (c :: rest) = c :: rest)
    (hdigit : (c = '-' || c.isDigit) = true) :
    valueWith build inner (c :: rest) = number build.number? (c :: rest) := by
  simp only [valueWith, hskip]
  split
  case h_8 heq =>
    cases heq
    rw [if_pos hdigit]
  all_goals
    next heq => cases heq <;> contradiction

/-- A numeral ends at the same place, whether it is in range or not. -/
theorem tracks_passNumeral {α : Type} (number? : Numeral → Option α) (cs : List Char) :
    Tracks True (fun rest x => rest = x.2) (passNumeral cs) (number number? cs) := by
  unfold passNumeral number
  cases numeral cs with
  | error e => trivial
  | ok x =>
      obtain ⟨n, rest⟩ := x
      rw [except_ok_bind]
      cases hn : number? n with
      | none => simp only [hn]; trivial
      | some value => simp only [hn]; rfl

/-- One value, if that is so of its parts. -/
theorem tracks_passWith {lax : Scan Unit} {inner : Option (Scan Json)}
    (hskip : ∀ q ∈ inner, ∀ cs, q (skipSpaces cs) = q cs)
    (h : ∀ q ∈ inner, ∀ cs, Tracks True (Abreast fun _ _ => True) (lax cs) (q cs))
    (cs : List Char) :
    Tracks True (Abreast fun _ _ => True) (passWith lax cs) (valueWith .values inner cs) := by
  cases hcs : skipSpaces cs with
  | nil => simp only [passWith, hcs]; trivial
  | cons c rest =>
      by_cases hquote : c = '"'
      · subst hquote
        simp only [passWith, valueWith, hcs]
        refine .bind (tracks_passString .outside [] rest).flip ?_
        rintro rest ⟨s, _⟩ rfl
        exact ⟨trivial, rfl⟩
      by_cases hlist : c = '['
      · subst hlist
        simp only [passWith, valueWith, hcs]
        cases inner with
        | none => exact .of_mayFail trivial _ _
        | some q =>
            exact .map_right (tracks_passItems (hskip q rfl) (h q rfl) _ true [] rest)
      by_cases hobject : c = '\x7b'
      · subst hobject
        simp only [passWith, valueWith, hcs]
        cases inner with
        | none => exact .of_mayFail trivial _ _
        | some q => exact .map_right (tracks_passEntries (h q rfl) _ true [] rest)
      -- What is left has no parts: a numeral, or a word that both scans read alike.
      rw [valueWith_of_plain .values inner hcs hlist hobject]
      simp only [passWith, hcs]
      split
      · next hdigit =>
          rw [valueWith_of_numeral .values none (by rw [← hcs, skipSpaces_skipSpaces]) hdigit]
          refine .map_left ((tracks_passNumeral _ _).mono ?_)
          rintro rest ⟨v, _⟩ rfl
          exact ⟨trivial, rfl⟩
      · exact .map_left (.refl (fun _ => ⟨trivial, rfl⟩) _)

/-- Values of any depth. -/
theorem tracks_passLevels (limit levels : Nat) (cs : List Char) :
    Tracks True (Abreast fun _ _ => True) (passLevels limit cs) (value levels cs) := by
  induction limit generalizing levels cs with
  | zero => trivial
  | succ limit ih =>
      cases levels with
      | zero =>
          rw [value_zero]
          exact tracks_passWith (by rintro _ ⟨⟩) (by rintro _ ⟨⟩) cs
      | succ levels =>
          rw [value_succ]
          refine tracks_passWith ?_ ?_ cs
          · rintro _ ⟨⟩
            exact value_skipSpaces levels
          · rintro _ ⟨⟩
            exact ih levels

/-- Passing over a value ends where reading it ends. -/
theorem tracks_pass (levels : Nat) (cs : List Char) :
    Tracks True (Abreast fun _ _ => True) (pass cs) (value levels cs) :=
  tracks_passLevels _ levels cs

end FilterSql.Json.Scan
