import FilterSql.Json.Typed
import FilterSql.Proofs.Json.Grammar

/-!
# `FilterSql.Proofs.Json.Spelled`: reading what is spelled

Scans for a wanted kind of value are compared with the grammar.
`Yields p cs P` says what a scan makes of some characters, whatever
follows them: it takes exactly these characters, and its results are
those with `P`. There is one rule for scans in sequence (`Yields.bind`).

A scan for one kind of value (`Typed`) reads every value, of that kind or
not: it has the results that are related to the tree of the value, and it
fails if there is none. What it makes of a value therefore depends
neither on its spelling nor on its surroundings.

* `Scan.yields_string`: strings after their opening quote.
* `Scan.typed_text`, `Scan.typed_texts`: strings and arrays of strings as
  values.
* `Scan.folds_of_entriesFrom`, `Scan.entriesFrom_of_folds`: objects, given
  what is made of one entry.
-/

set_option autoImplicit false

namespace FilterSql.Json

/-! ### Induction on the parts of a text -/

namespace Grammar.Spells

/-- Items of an array from the right. -/
theorem items_induction
    {motive : ∀ first trees cs, Spells (.items first trees) cs → Prop}
    (itemsEnd : ∀ first {bs} (hbs : Blanks bs), motive first [] _ (.itemsEnd first hbs))
    (item : ∀ {first sep v tree trees cs} (hsep : Separator first sep)
      (hv : Spells (.value tree) v) (h : Spells (.items false trees) cs), motive false trees cs h →
      motive first (tree :: trees) _ (.item hsep hv h))
    {first : Bool} {trees : List Tree} {cs : List Char} (h : Spells (.items first trees) cs) :
    motive first trees cs h :=
  match h with
  | .itemsEnd first hbs => itemsEnd first hbs
  | .item hsep hv h => item hsep hv h (items_induction itemsEnd item h)

/-- Entries of an object from the right. -/
theorem entries_induction
    {motive : ∀ first es cs, Spells (.entries first es) cs → Prop}
    (entriesEnd : ∀ first {bs} (hbs : Blanks bs), motive first [] _ (.entriesEnd first hbs))
    (entry : ∀ {first sep key signs bs bs' v tree es cs} (hsep : Separator first sep)
      (hkey : Characters key signs) (hbs : Blanks bs) (hbs' : Blanks bs')
      (hv : Spells (.value tree) v) (h : Spells (.entries false es) cs), motive false es cs h →
      motive first ((textOf? signs, tree) :: es) _ (.entry hsep hkey hbs hbs' hv h))
    {first : Bool} {es : Tree.Entries} {cs : List Char} (h : Spells (.entries first es) cs) :
    motive first es cs h :=
  match h with
  | .entriesEnd first hbs => entriesEnd first hbs
  | .entry hsep hkey hbs hbs' hv h =>
    entry hsep hkey hbs hbs' hv h (entries_induction entriesEnd entry h)

end Grammar.Spells

/-- Values by their first characters. -/
inductive Grammar.Shape : Tree → List Char → Prop where
  | string {cs : List Char} {signs : List Sign} (h : Characters cs signs) :
    Shape (.string (textOf? signs)) ('"' :: (cs ++ ['"']))
  | array {trees : List Tree} {cs : List Char} (h : Spells (.items true trees) cs) :
    Shape (.array trees) ('[' :: cs)
  | object {es : Tree.Entries} {cs : List Char} (h : Spells (.entries true es) cs) :
    Shape (.object es) ('\x7b' :: cs)
  | null : Shape .null null
  | bool (b : Bool) {c : Char} {cs : List Char} (hspace : Scan.isSpace c = false)
    (hc : c ∉ ['"', '[', '\x7b', 'n']) : Shape (.bool b) (c :: cs)
  | numeral (n : List Char) {c : Char} {cs : List Char} (hspace : Scan.isSpace c = false)
    (hc : c ∉ ['"', '[', '\x7b', 'n']) : Shape (.numeral n) (c :: cs)

/-- The first character of a value tells its kind. -/
theorem Grammar.Spells.shape {tree : Tree} {v : List Char} (h : Spells (.value tree) v) :
    Shape tree v := by
  cases h with
  | string h => exact .string h
  | array h => exact .array h
  | object h => exact .object h
  | word h =>
      simp only [words, List.mem_cons, Prod.mk.injEq, List.not_mem_nil, or_false] at h
      rcases h with ⟨rfl, rfl⟩ | ⟨rfl, rfl⟩ | ⟨rfl, rfl⟩
      · exact .null
      · exact .bool true (by decide) (by decide)
      · exact .bool false (by decide) (by decide)
  | numeral h =>
      obtain ⟨c, cs, rfl, hc⟩ := Scan.head_of_numeral h
      refine .numeral _ (Scan.isSpace_of_numeral hc) ?_
      intro hmem
      simp only [List.mem_cons, List.not_mem_nil, or_false] at hmem
      rcases hmem with rfl | rfl | rfl | rfl <;> cases hc

namespace Scan

open Grammar

/-! ### What is made of a text -/

/-- A scan takes these characters, whatever follows them, and its results
are those with `P`. -/
def Yields {α : Type} (p : Scan α) (cs : List Char) (P : α → Prop) : Prop :=
  ∀ rest a after, p (cs ++ rest) = .ok (a, after) ↔ P a ∧ after = rest

namespace Yields

variable {α β : Type} {p : Scan α} {cs cs' : List Char} {P : α → Prop}

/-- The scan has this result. -/
theorem of_ok {b : α} (h : ∀ rest, p (cs ++ rest) = .ok (b, rest)) : Yields p cs (· = b) := by
  intro rest a after
  rw [h]
  constructor
  · rintro ⟨⟩
    exact ⟨rfl, rfl⟩
  · rintro ⟨rfl, rfl⟩
    rfl

theorem pure (b : α) : Yields (fun cs => .ok (b, cs)) [] (· = b) :=
  of_ok fun _ => rfl

/-- The scan fails, and it should. -/
theorem of_fails (h : ∀ rest, ∃ e, p (cs ++ rest) = .error e) (hP : ∀ a, ¬ P a) : Yields p cs P := by
  intro rest a after
  obtain ⟨e, he⟩ := h rest
  rw [he]
  constructor
  · rintro ⟨⟩
  · rintro ⟨ha, -⟩
    exact absurd ha (hP a)

/-- What is known of the results can be said in other words. -/
theorem congr {Q : α → Prop} (h : Yields p cs P) (hPQ : ∀ a, P a ↔ Q a) : Yields p cs Q := by
  intro rest a after
  rw [h, hPQ]

/-- The scan comes to where another one starts. -/
theorem of_eq {p' : Scan α} (h : Yields p' cs' P)
    (heq : ∀ rest, p (cs ++ rest) = p' (cs' ++ rest)) : Yields p cs P := by
  intro rest a after
  rw [heq, h]

/-- Scans in sequence. -/
theorem bind {q : α → Scan β} {Q : α → β → Prop} (hp : Yields p cs P)
    (hq : ∀ a, Yields (q a) cs' (Q a)) :
    Yields (fun x => p x >>= fun (a, rest) => q a rest) (cs ++ cs')
      (fun b => ∃ a, P a ∧ Q a b) := by
  intro rest b after
  simp only [List.append_assoc, except_bind_eq_ok_iff, Prod.exists, hp (cs' ++ rest)]
  constructor
  · rintro ⟨a, _, ⟨ha, rfl⟩, hb⟩
    obtain ⟨hab, rfl⟩ := (hq a rest b after).mp hb
    exact ⟨⟨a, ha, hab⟩, rfl⟩
  · rintro ⟨⟨a, ha, hab⟩, rfl⟩
    exact ⟨a, _, ⟨ha, rfl⟩, (hq a after b after).mpr ⟨hab, rfl⟩⟩

end Yields

/-! ### Strings -/

/-- The reader has the same second halves of pairs. -/
theorem isTrail_iff {n : Nat} : isTrail n = true ↔ 0xDC00 ≤ n ∧ n < 0xE000 := by
  simp only [isTrail, Bool.and_eq_true, decide_eq_true_eq]
  omega

/-- And the same first halves. -/
theorem isLead_iff {n : Nat} : isLead n = true ↔ 0xD800 ≤ n ∧ n < 0xDC00 := by
  simp only [isLead, Bool.and_eq_true, decide_eq_true_eq]
  omega

/-- The place behind a sign, which may be the first half of a pair. -/
def Escape.behind : (lead : Option Nat) → Escape
  | none => .outside
  | some lead => .paired lead

/-- What comes of a code, with or without the first half of a pair in
front. -/
def afterCode (seen : List Char) : (lead : Option Nat) → Nat → Scan String
  | none, n, cs =>
    if isTrail n then .error ⟨.loneSurrogate, cs, 0⟩
    else if isLead n then stringFrom seen (.paired n) cs
    else stringFrom (Char.ofNat n :: seen) .outside cs
  | some l, n, cs =>
    if isTrail n then stringFrom (pairChar l n :: seen) .outside cs
    else .error ⟨.loneSurrogate, cs, 0⟩

/-- One digit of a code that is not the last one. -/
theorem stringFrom_hex {d : Char} {n : Nat} (hd : (d, n) ∈ hexDigits) (seen : List Char)
    (lead : Option Nat) (left code : Nat) (cs : List Char) :
    stringFrom seen (.hex lead (left + 2) (some code)) (d :: cs)
      = stringFrom seen (.hex lead (left + 1) (some (16 * code + n))) cs := by
  obtain ⟨hvalue, hsize⟩ := hexValue?_of_mem hd
  have hpush : pushHex (some code) d = some (16 * code + n) := by simp [pushHex, hvalue]
  have hmore : 1 < left + 2 := by omega
  simp only [stringFrom, hsize, hpush, hmore, if_true]
  rfl

section

variable {d₁ d₂ d₃ d₄ : Char} {n₁ n₂ n₃ n₄ : Nat} (h₁ : (d₁, n₁) ∈ hexDigits)
  (h₂ : (d₂, n₂) ∈ hexDigits) (h₃ : (d₃, n₃) ∈ hexDigits) (h₄ : (d₄, n₄) ∈ hexDigits)

include h₁ h₂ h₃ h₄

/-- The four digits of a code. -/
theorem stringFrom_hexStart (seen : List Char) (lead : Option Nat) (cs : List Char) :
    stringFrom seen (.hexStart lead) (d₁ :: d₂ :: d₃ :: d₄ :: cs)
      = afterCode seen lead (16 * (16 * (16 * n₁ + n₂) + n₃) + n₄) cs := by
  obtain ⟨hvalue, hsize⟩ := hexValue?_of_mem h₄
  have hpush : ∀ code, pushHex (some code) d₄ = some (16 * code + n₄) := fun code => by
    simp [pushHex, hvalue]
  -- Three digits are collected, and the fourth one ends the code.
  rw [Escape.hexStart, stringFrom_hex h₁, stringFrom_hex h₂, stringFrom_hex h₃, Nat.mul_zero,
    Nat.zero_add]
  cases lead <;> simp [stringFrom, hsize, hpush, afterCode]

/-- A code in front of other characters. -/
theorem yields_code {cs : List Char} {signs : List Sign}
    (ih : ∀ lead seen, Yields (stringFrom seen (.behind lead)) cs fun s =>
      (decode? lead signs).map (fun t => String.ofList (seen.reverse ++ t)) = some s)
    (lead : Option Nat) (seen : List Char) :
    Yields (stringFrom seen (.behind lead)) ('\\' :: 'u' :: d₁ :: d₂ :: d₃ :: d₄ :: cs) fun s =>
      (decode? lead (.code (16 * (16 * (16 * n₁ + n₂) + n₃) + n₄) :: signs)).map
        (fun t => String.ofList (seen.reverse ++ t)) = some s := by
  have hstart : ∀ rest, stringFrom seen (.behind lead)
      ('\\' :: 'u' :: d₁ :: d₂ :: d₃ :: d₄ :: cs ++ rest)
        = afterCode seen lead (16 * (16 * (16 * n₁ + n₂) + n₃) + n₄) (cs ++ rest) := fun rest => by
    rw [← stringFrom_hexStart h₁ h₂ h₃ h₄]
    cases lead <;> rfl
  generalize 16 * (16 * (16 * n₁ + n₂) + n₃) + n₄ = n at hstart
  cases lead with
  | none =>
      -- The code is a second half, a first half or a whole character.
      simp only [decode?, ← isTrail_iff, ← isLead_iff]
      cases htrail : isTrail n with
      | true => exact .of_fails (fun rest => ⟨_, by rw [hstart, afterCode, htrail]; rfl⟩) (by simp)
      | false =>
          cases hlead : isLead n with
          | true =>
              refine (ih (some n) seen).of_eq fun rest => ?_
              rw [hstart, afterCode, htrail, hlead]
              rfl
          | false =>
              refine ((ih none (Char.ofNat n :: seen)).of_eq fun rest => ?_).congr fun s => ?_
              · rw [hstart, afterCode, htrail, hlead]
                rfl
              · simp [Function.comp_def]
  | some lead =>
      simp only [decode?, ← isTrail_iff]
      cases htrail : isTrail n with
      | true =>
          refine ((ih none (pairChar lead n :: seen)).of_eq fun rest => ?_).congr fun s => ?_
          · rw [hstart, afterCode, htrail]
            rfl
          · simp [Function.comp_def, pairChar]
      | false => exact .of_fails (fun rest => ⟨_, by rw [hstart, afterCode, htrail]; rfl⟩) (by simp)

end

/-- The rest of a string, also behind the first half of a pair. -/
theorem yields_stringFrom {cs : List Char} {signs : List Sign} (h : Characters cs signs)
    (lead : Option Nat) (seen : List Char) :
    Yields (stringFrom seen (.behind lead)) (cs ++ ['"']) fun s =>
      (decode? lead signs).map (fun t => String.ofList (seen.reverse ++ t)) = some s := by
  induction h generalizing lead seen with
  | nil =>
      cases lead with
      | none =>
          refine (Yields.of_ok fun rest => rfl).congr fun s => ?_
          simp [decode?, eq_comm]
      | some lead => exact .of_fails (fun rest => ⟨_, rfl⟩) (by simp [decode?])
  | @plain c cs signs hc _ ih =>
      obtain ⟨hcontrol, hquote, hslash⟩ := isPlain_iff.mp hc
      cases lead with
      | none =>
          refine ((ih none (c :: seen)).of_eq fun rest => ?_).congr fun s => ?_
          · rw [List.cons_append, List.cons_append, Escape.behind, stringFrom, if_neg hquote,
              if_neg hslash, if_neg (by omega)]
          · simp [decode?, Function.comp_def]
      | some lead =>
          -- Behind the first half of a pair only another code may stand.
          refine .of_fails (fun rest => ⟨⟨.hexEscapeEnd, c :: (cs ++ ['"'] ++ rest), 1⟩, ?_⟩)
            (by simp [decode?])
          rw [List.cons_append, List.cons_append, Escape.behind, stringFrom, if_neg hslash]
  | @short c d cs signs hc _ ih =>
      have hd := shortEscape?_of_mem hc
      cases lead with
      | none =>
          refine ((ih none (d :: seen)).of_eq fun rest => ?_).congr fun s => ?_
          · simp only [List.cons_append]
            rw [Escape.behind, stringFrom, if_neg (by decide), if_pos rfl, stringFrom, hd]
          · simp [decode?, Function.comp_def]
      | some lead =>
          refine .of_fails (fun rest => ⟨⟨.hexEscapeEnd, c :: (cs ++ ['"'] ++ rest), 1⟩, ?_⟩)
            (by simp [decode?])
          have hu : c ≠ 'u' := by
            rintro rfl
            cases hd
          simp only [List.cons_append]
          rw [Escape.behind, stringFrom, if_pos rfl, stringFrom, if_neg hu]
  | code h₁ h₂ h₃ h₄ _ ih => exact yields_code h₁ h₂ h₃ h₄ ih lead seen

/-- A string after its opening quote is the text that its characters
spell. -/
theorem yields_string {cs : List Char} {signs : List Sign} (h : Characters cs signs) :
    Yields string (cs ++ ['"']) fun s => textOf? signs = some s :=
  yields_stringFrom h none []

/-! ### Values of a wanted kind -/

/-- A scan for one kind of value, which skips blanks in front of it. The
relation says which values are of that kind, and what is made of them. -/
structure Typed {α : Type} (p : Scan α) (R : α → Tree → Prop) : Prop where
  blanks : ∀ {bs}, Blanks bs → ∀ cs, p (bs ++ cs) = p cs
  yields : ∀ {v tree}, Spells (.value tree) v → Yields p v fun a => R a tree

/-- A string is read as its text, and nothing else is. -/
theorem typed_text : Typed text Tree.IsText where
  blanks hbs cs := by simp only [text, skipSpaces_blanks hbs]
  yields {v tree} h := by
    have hother : ∀ {c cs}, isSpace c = false → c ≠ '"' →
        ∀ rest, ∃ e, text (c :: cs ++ rest) = .error e := by
      intro c cs hspace hquote rest
      simp only [text, List.cons_append, skipSpaces_cons hspace]
      split
      · next heq => cases heq; contradiction
      · exact ⟨_, rfl⟩
    cases h.shape with
    | string hcs =>
        refine ((yields_string hcs).of_eq fun rest => ?_).congr fun s => ?_
        · simp only [text, List.cons_append, skipSpaces_cons (c := '"') rfl]
        · rw [Tree.IsText, Tree.string.injEq]
    | array | object | null => exact .of_fails (hother rfl (by decide)) (by rintro _ ⟨⟩)
    | bool _ hspace hc | numeral _ hspace hc =>
        exact .of_fails (hother hspace (by rintro rfl; simp at hc)) (by rintro _ ⟨⟩)

/-- Blanks in front of an item do not matter. -/
theorem nextItem_blanks {bs : List Char} (h : Blanks bs) (first : Bool) (cs : List Char) :
    nextItem first (bs ++ cs) = nextItem first cs := by
  simp only [nextItem, skipSpaces_blanks h]

/-- An item, with what stands in front of it. -/
theorem nextItem_item {first : Bool} {sep v : List Char} {tree : Tree} (hsep : Separator first sep)
    (hv : Spells (.value tree) v) (rest : List Char) :
    nextItem first (sep ++ (v ++ rest)) = .ok (true, v ++ rest) := by
  obtain ⟨c, cs, rfl, hspace, hclose⟩ := head_of_value hv
  cases hsep with
  | start h => exact nextItem_first (skipSpaces_blanks_cons h hspace _) hclose
  | comma h h' =>
      rw [List.append_assoc, List.cons_append, nextItem_blanks h, List.cons_append]
      exact nextItem_comma (skipSpaces_blanks_cons h' hspace _) hclose

namespace Typed

variable {α : Type} {p : Scan α} {R : α → Tree → Prop}

/-- The items of an array, behind those that have been read. The limit
has to be large enough. -/
theorem yields_itemsFrom (hp : Typed p R) {first : Bool} {trees : List Tree} {cs : List Char}
    (h : Spells (.items first trees) cs) {limit : Nat} (hlimit : cs.length ≤ limit)
    (seen : List α) :
    Yields (itemsFrom p limit first seen) cs fun xs =>
      ∃ ys, List.Forall₂ R ys trees ∧ xs = seen.reverse ++ ys := by
  induction h using Spells.items_induction generalizing limit seen with
  | itemsEnd first hbs =>
      rw [List.length_append, List.length_singleton] at hlimit
      obtain ⟨limit, rfl⟩ := Nat.exists_eq_add_of_lt hlimit
      refine (Yields.of_ok (b := seen.reverse) fun rest => ?_).congr fun xs => ?_
      · rw [List.append_assoc, itemsFrom, List.singleton_append,
          nextItem_close first (skipSpaces_blanks_cons hbs rfl rest)]
        rfl
      · simp
  | @item first sep v tree trees cs hsep hv _ ih =>
      -- The item has a character at least, so the limit is large enough for the others.
      obtain ⟨c, v', hv', -, -⟩ := head_of_value hv
      rw [hv'] at hlimit
      simp only [List.length_append, List.length_cons] at hlimit
      obtain ⟨limit, rfl⟩ := Nat.exists_eq_add_of_le' (show 1 ≤ limit by omega)
      have hothers : cs.length ≤ limit := by omega
      have hparts := (hp.yields hv).bind fun x => ih hothers (x :: seen)
      refine (hparts.of_eq fun rest => ?_).congr fun xs => ?_
      · rw [List.append_assoc, List.append_assoc, itemsFrom, nextItem_item hsep hv, except_ok_bind]
        rfl
      · simp only [List.forall₂_cons_right_iff, List.reverse_cons, List.append_assoc,
          List.singleton_append]
        constructor
        · rintro ⟨x, hx, ys, hys, rfl⟩
          exact ⟨x :: ys, ⟨x, ys, hx, hys, rfl⟩, rfl⟩
        · rintro ⟨_, ⟨x, ys, hx, hys, rfl⟩, rfl⟩
          exact ⟨x, hx, ys, hys, rfl⟩

/-- The items of an array after its opening bracket. -/
theorem yields_items (hp : Typed p R) {trees : List Tree} {cs : List Char}
    (h : Spells (.items true trees) cs) : Yields (items p) cs fun xs => List.Forall₂ R xs trees := by
  intro rest xs after
  have hlimit : cs.length ≤ (cs ++ rest).length + 1 := by
    rw [List.length_append]
    omega
  rw [items, hp.yields_itemsFrom h hlimit]
  simp

end Typed

/-- Strings are related to their trees one by one. -/
theorem forall₂_string_iff {names : List String} {trees : List Tree} :
    List.Forall₂ Tree.IsText names trees ↔ trees = names.map fun s => .string (some s) := by
  induction names generalizing trees with
  | nil => simp
  | cons name names ih => simp [List.forall₂_cons_left_iff, ih, Tree.IsText]

/-- An array of strings is read as their texts, and nothing else is. -/
theorem typed_texts : Typed texts Tree.IsTexts where
  blanks hbs cs := by simp only [texts, skipSpaces_blanks hbs]
  yields {v tree} h := by
    have hother : ∀ {c cs}, isSpace c = false → c ≠ '[' →
        ∀ rest, ∃ e, texts (c :: cs ++ rest) = .error e := by
      intro c cs hspace hopen rest
      simp only [texts, List.cons_append, skipSpaces_cons hspace]
      split
      · next heq => cases heq; contradiction
      · exact ⟨_, rfl⟩
    cases h.shape with
    | array hcs =>
        refine ((typed_text.yields_items hcs).of_eq fun rest => ?_).congr fun names => ?_
        · simp only [texts, List.cons_append, skipSpaces_cons (c := '[') rfl]
        · rw [forall₂_string_iff, Tree.IsTexts, Tree.array.injEq]
    | string | object | null => exact .of_fails (hother rfl (by decide)) (by rintro _ ⟨⟩)
    | bool _ hspace hc | numeral _ hspace hc =>
        exact .of_fails (hother hspace (by rintro rfl; simp at hc)) (by rintro _ ⟨⟩)

/-! ### Objects -/

/-- What comes of entries that are taken in one after the other. Every
key has to be a text. -/
inductive Folds {σ : Type} (Step : σ → String → Tree → σ → Prop) :
    σ → Tree.Entries → σ → Prop where
  | nil (s : σ) : Folds Step s [] s
  | cons {s s₁ s' : σ} {key : String} {tree : Tree} {es : Tree.Entries} (h : Step s key tree s₁)
    (hrest : Folds Step s₁ es s') : Folds Step s ((some key, tree) :: es) s'

/-- Blanks in front of a key do not matter. -/
theorem nextKey_blanks {bs : List Char} (h : Blanks bs) (first : Bool) (cs : List Char) :
    nextKey first (bs ++ cs) = nextKey first cs := by
  simp only [nextKey, skipSpaces_blanks h]

/-- The key of an entry, if its characters spell one. -/
theorem nextKey_entry {first : Bool} {sep key : List Char} (hsep : Separator first sep)
    (cs : List Char) :
    nextKey first (sep ++ '"' :: (key ++ '"' :: cs))
      = (string (key ++ ['"'] ++ cs) >>= fun (key, rest) => .ok (some key, rest)) := by
  rw [List.append_assoc, List.singleton_append]
  cases hsep with
  | start h => exact nextKey_of_string (skipSpaces_blanks_cons h rfl _)
  | comma h h' =>
      rw [List.append_assoc, List.cons_append, nextKey_blanks h]
      exact nextKey_comma (skipSpaces_blanks_cons h' rfl _)

section

variable {σ : Type} {entry : σ → String → Scan σ} {Step : σ → String → Tree → σ → Prop}

/-- The end of an object. -/
theorem entriesFrom_end {bs : List Char} (hbs : Blanks bs) (limit : Nat) (first : Bool) (s : σ)
    (rest : List Char) :
    entriesFrom entry (limit + 1) first s (bs ++ ['\x7d'] ++ rest) = .ok (s, rest) := by
  rw [List.append_assoc, entriesFrom, List.singleton_append,
    nextKey_close first (skipSpaces_blanks_cons hbs rfl rest), except_ok_bind]

/-- The first entry, and then the others. -/
theorem entriesFrom_entry_eq_ok_iff {first : Bool} {sep key : List Char} {signs : List Sign}
    (hsep : Separator first sep) (hkey : Characters key signs) {limit : Nat} {s s' : σ}
    {cs after : List Char} :
    entriesFrom entry (limit + 1) first s (sep ++ '"' :: (key ++ '"' :: cs)) = .ok (s', after) ↔
      ∃ name s₁ mid, textOf? signs = some name ∧ entry s name cs = .ok (s₁, mid) ∧
        entriesFrom entry limit false s₁ mid = .ok (s', after) := by
  simp only [entriesFrom, nextKey_entry hsep, bind_assoc, except_ok_bind, except_bind_eq_ok_iff,
    Prod.exists, yields_string hkey cs]
  constructor
  · rintro ⟨name, _, ⟨hname, rfl⟩, s₁, mid, hentry, hrest⟩
    exact ⟨name, s₁, mid, hname, hentry, hrest⟩
  · rintro ⟨name, s₁, mid, hname, hentry, hrest⟩
    exact ⟨name, _, ⟨hname, rfl⟩, s₁, mid, hentry, hrest⟩

/-- If every entry that is read is a step, then all of them together are
steps in sequence, and they are read to their end. -/
theorem folds_of_entriesFrom
    (hentry : ∀ {s s₁ key bs bs' v tree rest after}, Blanks bs → Blanks bs' →
      Spells (.value tree) v → Stops rest →
      entry s key (bs ++ ':' :: (bs' ++ (v ++ rest))) = .ok (s₁, after) →
      Step s key tree s₁ ∧ after = rest)
    {first : Bool} {es : Tree.Entries} {cs : List Char} (h : Spells (.entries first es) cs)
    {limit : Nat} {s s' : σ} {rest after : List Char}
    (hrun : entriesFrom entry limit first s (cs ++ rest) = .ok (s', after)) :
    Folds Step s es s' ∧ after = rest := by
  induction h using Spells.entries_induction generalizing limit s with
  | entriesEnd first hbs =>
      cases limit with
      | zero => cases hrun
      | succ limit =>
          rw [entriesFrom_end hbs] at hrun
          cases hrun
          exact ⟨.nil _, rfl⟩
  | entry hsep hkey hbs hbs' hv h ih =>
      cases limit with
      | zero => cases hrun
      | succ limit =>
          simp only [List.append_assoc, List.cons_append] at hrun
          obtain ⟨name, s₁, mid, hname, hfirst, hrun⟩ :=
            (entriesFrom_entry_eq_ok_iff hsep hkey).mp hrun
          obtain ⟨hstep, rfl⟩ := hentry hbs hbs' hv (stops_of_entries h rest) hfirst
          obtain ⟨hfolds, rfl⟩ := ih hrun
          rw [hname]
          exact ⟨.cons hstep hfolds, rfl⟩

/-- If every step can be read as an entry, then steps in sequence can be
read, provided that the limit is large enough. -/
theorem entriesFrom_of_folds
    (hentry : ∀ {s s₁ key bs bs' v tree rest}, Blanks bs → Blanks bs' → Spells (.value tree) v →
      Stops rest → Step s key tree s₁ →
      entry s key (bs ++ ':' :: (bs' ++ (v ++ rest))) = .ok (s₁, rest))
    {first : Bool} {es : Tree.Entries} {cs : List Char} (h : Spells (.entries first es) cs)
    {limit : Nat} (hlimit : cs.length ≤ limit) {s s' : σ} (hfolds : Folds Step s es s')
    (rest : List Char) : entriesFrom entry limit first s (cs ++ rest) = .ok (s', rest) := by
  induction h using Spells.entries_induction generalizing limit s with
  | entriesEnd first hbs =>
      rw [List.length_append, List.length_singleton] at hlimit
      obtain ⟨limit, rfl⟩ := Nat.exists_eq_add_of_lt hlimit
      cases hfolds
      exact entriesFrom_end hbs _ first _ rest
  | @entry first sep key signs bs bs' v tree es cs hsep hkey hbs hbs' hv h ih =>
      simp only [List.length_append, List.length_cons] at hlimit
      obtain ⟨limit, rfl⟩ := Nat.exists_eq_add_of_le' (show 1 ≤ limit by omega)
      generalize hname : textOf? signs = name at hfolds
      cases hfolds with
      | cons hstep hfolds =>
          simp only [List.append_assoc, List.cons_append]
          exact (entriesFrom_entry_eq_ok_iff hsep hkey).mpr
            ⟨_, _, _, hname, hentry hbs hbs' hv (stops_of_entries h rest) hstep,
              ih (by omega) hfolds⟩

end

end Scan

end FilterSql.Json
