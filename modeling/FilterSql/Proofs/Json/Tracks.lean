import FilterSql.Json.Reader
import FilterSql.Proofs.Outcome
import Mathlib.Data.List.DropRight
import Mathlib.Data.List.Forall2

/-!
# `FilterSql.Proofs.Json.Tracks`: two readers of one text

Several readers go over the same texts: for values, for the layout of a
table, or only to get past something. `Tracks mayFail R x y` compares the
outcomes of two of them: where both have a result the two are related by
`R`, and where only the first has one, `mayFail` holds. With `True` for
`mayFail` only the cases in which both succeed are compared; with `False`
the second reader succeeds wherever the first does.

Readers are built from smaller ones, and so are the comparisons: there
is one rule for running readers in sequence (`Tracks.bind`), one for
arrays (`Scan.tracks_items`) and one for objects (`Scan.tracks_entries`).
For scans the relation also says that the same text is left over
(`Abreast`).

Two builders that make related things of related parts
(`Builder.Relates`) make related things of every text
(`Scan.tracks_valueOf`).
-/

set_option autoImplicit false

namespace FilterSql

/-! ### Comparing outcomes -/

/-- Results are related by `R`; where only the first outcome is a
result, `mayFail` holds. -/
def Tracks {ε α β : Type} (mayFail : Prop) (R : α → β → Prop) :
    Except ε α → Except ε β → Prop
  | .error _, _ => True
  | .ok _, .error _ => mayFail
  | .ok a, .ok b => R a b

namespace Tracks

variable {ε α β γ δ : Type} {mayFail : Prop} {R : α → β → Prop} {S : γ → δ → Prop}

/-- The second reader fails where it may. -/
theorem of_mayFail (h : mayFail) (x : Except ε α) (e : ε) : Tracks mayFail R x (.error e) := by
  cases x with
  | error _ => trivial
  | ok _ => exact h

theorem refl {R : α → α → Prop} (h : ∀ a, R a a) (x : Except ε α) : Tracks mayFail R x x := by
  cases x with
  | error e => trivial
  | ok a => exact h a

/-- A comparison in which the stricter reader comes first, turned round:
the laxer one may succeed alone. -/
theorem flip {x : Except ε α} {y : Except ε β} (h : Tracks False R x y) :
    Tracks True (fun b a => R a b) y x := by
  match x, y, h with
  | .error _, .error _, _ | .error _, .ok _, _ => trivial
  | .ok _, .ok _, h => exact h

/-- Outcomes in sequence. -/
theorem bind {x : Except ε α} {y : Except ε β} {f : α → Except ε γ} {g : β → Except ε δ}
    (h : Tracks mayFail R x y) (hnext : ∀ a b, R a b → Tracks mayFail S (f a) (g b)) :
    Tracks mayFail S (x >>= f) (y >>= g) := by
  match x, y, h with
  | .error _, _, _ => trivial
  | .ok a, .ok b, h => exact hnext a b h
  | .ok a, .error _, h => exact of_mayFail h (f a) _

/-- The same outcome on both sides, and then one of its own on each. -/
theorem bind_same (x : Except ε α) {f : α → Except ε γ} {g : α → Except ε δ}
    (hnext : ∀ a, Tracks mayFail S (f a) (g a)) :
    Tracks mayFail S (x >>= f) (x >>= g) := by
  have hsame : Tracks mayFail Eq x x := refl (fun _ => rfl) x
  exact hsame.bind fun a _ h => h ▸ hnext a

/-- The second reader makes something of its result. -/
theorem map_right {S : α → γ → Prop} {x : Except ε α} {y : Except ε β} {g : β → γ}
    (h : Tracks mayFail (fun a b => S a (g b)) x y) :
    Tracks mayFail S x (y >>= fun b => .ok (g b)) := by
  match x, y, h with
  | .error _, _, _ => trivial
  | .ok _, .error _, h => exact h
  | .ok _, .ok _, h => exact h

/-- The first reader makes something of its result. -/
theorem map_left {S : γ → β → Prop} {x : Except ε α} {y : Except ε β} {f : α → γ}
    (h : Tracks mayFail (fun a b => S (f a) b) x y) :
    Tracks mayFail S (x >>= fun a => .ok (f a)) y := by
  match x, y, h with
  | .error _, _, _ => trivial
  | .ok _, .error _, h => exact h
  | .ok _, .ok _, h => exact h

/-- The results are related by whatever follows from `R`. -/
theorem mono {R' : α → β → Prop} {x : Except ε α} {y : Except ε β} (h : Tracks mayFail R x y)
    (himp : ∀ a b, R a b → R' a b) : Tracks mayFail R' x y := by
  match x, y, h with
  | .error _, _, _ => trivial
  | .ok _, .error _, h => exact h
  | .ok a, .ok b, h => exact himp a b h

/-- A second reader that may not fail has a result where the first has
one. -/
theorem exists_of_ok {a : α} {y : Except ε β} (h : Tracks False R (.ok a) y) :
    ∃ b, y = .ok b ∧ R a b := by
  cases y with
  | error e => exact h.elim
  | ok b => exact ⟨b, rfl, h⟩

end Tracks

namespace Json

/-- Two entries with the same key and related values. -/
inductive Keyed {α β : Type} (R : α → β → Prop) : String × α → String × β → Prop where
  | mk (key : String) {a : α} {b : β} (h : R a b) : Keyed R (key, a) (key, b)

/-- Related entries stay related if a key is given related values: it
has its place on both sides, or on neither. -/
theorem Entries.keyed_insert {α β : Type} {R : α → β → Prop} {entries : Entries α}
    {entries' : Entries β} (h : List.Forall₂ (Keyed R) entries entries') (key : String) {a : α}
    {b : β} (hab : R a b) :
    List.Forall₂ (Keyed R) (entries.insert key a) (entries'.insert key b) := by
  induction h with
  | nil => exact .cons (.mk key hab) .nil
  | cons hentry hentries ih =>
      obtain ⟨k, hrest⟩ := hentry
      rw [insert, insert]
      split
      · exact .cons (.mk k hab) hentries
      · exact .cons (.mk k hrest) ih

/-- What two builders make of related parts is related. A numeral that is
in range for the first is so for the second. -/
structure Builder.Relates {α β : Type} (R : α → β → Prop) (build : Builder α)
    (build' : Builder β) : Prop where
  null : R build.null build'.null
  bool : ∀ b, R (build.bool b) (build'.bool b)
  number : ∀ {cs rest n a}, Scan.numeral cs = .ok (n, rest) → build.number? n = some a →
    ∃ b, build'.number? n = some b ∧ R a b
  string : ∀ s, R (build.string s) (build'.string s)
  array : ∀ {as bs}, List.Forall₂ R as bs → R (build.array as) (build'.array bs)
  object : ∀ {as bs}, List.Forall₂ (Keyed R) as bs → R (build.object as) (build'.object bs)

/-- Two results with the same text left over. -/
def Abreast {α β : Type} (R : α → β → Prop) (x : α × List Char) (y : β × List Char) : Prop :=
  R x.1 y.1 ∧ x.2 = y.2

namespace Scan

/-- Blanks are skipped all at once. -/
@[simp] theorem skipSpaces_skipSpaces (cs : List Char) :
    skipSpaces (skipSpaces cs) = skipSpaces cs :=
  List.dropWhile_idempotent ..

/-- Where nothing may be opened there are no parts to read. -/
theorem value_zero : value 0 = valueWith .values none := rfl

/-- The parts of a value have one level less. -/
theorem value_succ (levels : Nat) :
    value (levels + 1) = valueWith .values (some (value levels)) := rfl

/-- Blanks in front of a value do not matter. -/
theorem valueWith_skipSpaces {α : Type} (build : Builder α) (inner : Option (Scan α))
    (cs : List Char) : valueWith build inner (skipSpaces cs) = valueWith build inner cs := by
  simp only [valueWith, skipSpaces_skipSpaces]

/-- Blanks in front of a value of any depth do not matter either. -/
theorem value_skipSpaces (levels : Nat) (cs : List Char) :
    value levels (skipSpaces cs) = value levels cs := by
  cases levels with
  | zero => rw [value_zero, valueWith_skipSpaces]
  | succ levels => rw [value_succ, valueWith_skipSpaces]

/-- A quote starts a string. -/
theorem value_of_string {cs rest : List Char} (hcs : skipSpaces cs = '"' :: rest) (levels : Nat) :
    value levels cs = (string rest >>= fun (s, rest) => .ok (.string s, rest)) := by
  cases levels <;> simp only [value_zero, value_succ, valueWith, hcs] <;> rfl

/-- The letter `n` starts `null`. -/
theorem value_of_null {cs rest : List Char} (hcs : skipSpaces cs = 'n' :: rest) (levels : Nat) :
    value levels cs = (word ['u', 'l', 'l'] rest >>= fun rest => .ok (.null, rest)) := by
  cases levels <;> simp only [value_zero, value_succ, valueWith, hcs] <;> rfl

/-- A bracket starts an array, if there is a level left. -/
theorem value_of_array {cs rest : List Char} (hcs : skipSpaces cs = '[' :: rest) (levels : Nat) :
    value (levels + 1) cs =
      (items (value levels) rest >>= fun (vs, rest) => .ok (.array vs, rest)) := by
  simp only [value_succ, valueWith, hcs]
  rfl

/-- A brace starts an object, if there is a level left. -/
theorem value_of_object {cs rest : List Char} (hcs : skipSpaces cs = '\x7b' :: rest) (levels : Nat) :
    value (levels + 1) cs =
      (entries (member (value levels)) [] rest >>= fun (fields, rest) =>
        .ok (.object fields, rest)) := by
  simp only [value_succ, valueWith, hcs]
  rfl

/-- The first key of an object has no comma in front of it. -/
theorem nextKey_of_string {cs rest : List Char} (hcs : skipSpaces cs = '"' :: rest) :
    nextKey true cs = (string rest >>= fun (key, rest) => .ok (some key, rest)) := by
  simp only [nextKey, hcs]
  rfl

/-- An entry in two steps: its value is read, and then it is taken in. -/
theorem member_eq_bind {α : Type} (inner : Scan α) (entries : Entries α) (key : String)
    (cs : List Char) :
    member inner entries key cs =
      ((colon cs >>= inner) >>= fun (v, cs) => .ok (entries.insert key v, cs)) := by
  rw [bind_assoc]
  rfl

/-! ### Arrays and objects -/

section

variable {α β σ τ : Type} {mayFail : Prop} {R : α → β → Prop}

/-- Arrays item by item. The items so far are related as well, the last
one first on both sides. -/
theorem tracks_itemsFrom {p : Scan α} {q : Scan β}
    (h : ∀ cs, Tracks mayFail (Abreast R) (p cs) (q cs)) (limit : Nat) (first : Bool)
    {seen : List α} {seen' : List β} (hseen : List.Forall₂ R seen seen') (cs : List Char) :
    Tracks mayFail (Abreast (List.Forall₂ R)) (itemsFrom p limit first seen cs)
      (itemsFrom q limit first seen' cs) := by
  induction limit generalizing first seen seen' cs with
  | zero => trivial
  | succ limit ih =>
      -- Whether there is a next item does not depend on what items are read as.
      refine .bind_same _ ?_
      rintro ⟨more, cs⟩
      cases more with
      | false => exact ⟨List.rel_reverse hseen, rfl⟩
      | true =>
          refine .bind (h cs) ?_
          rintro ⟨a, rest⟩ ⟨b, _⟩ ⟨hab, rfl⟩
          exact ih false (.cons hab hseen) rest

/-- Arrays after their opening bracket. -/
theorem tracks_items {p : Scan α} {q : Scan β}
    (h : ∀ cs, Tracks mayFail (Abreast R) (p cs) (q cs)) (cs : List Char) :
    Tracks mayFail (Abreast (List.Forall₂ R)) (items p cs) (items q cs) :=
  tracks_itemsFrom h _ true .nil cs

/-- Objects entry by entry, with an invariant `I` for the states of the
two readers. -/
theorem tracks_entriesFrom {I : σ → τ → Prop} {p : σ → String → Scan σ} {q : τ → String → Scan τ}
    (h : ∀ s t key cs, I s t → Tracks mayFail (Abreast I) (p s key cs) (q t key cs)) (limit : Nat)
    (first : Bool) {s : σ} {t : τ} (hst : I s t) (cs : List Char) :
    Tracks mayFail (Abreast I) (entriesFrom p limit first s cs) (entriesFrom q limit first t cs) := by
  induction limit generalizing first s t cs with
  | zero => trivial
  | succ limit ih =>
      -- Keys are the same for both readers, so they differ in what an entry does to the state.
      refine .bind_same _ ?_
      rintro ⟨key, cs⟩
      cases key with
      | none => exact ⟨hst, rfl⟩
      | some key =>
          refine .bind (h s t key cs hst) ?_
          rintro ⟨s, rest⟩ ⟨t, _⟩ ⟨hst, rfl⟩
          exact ih false hst rest

/-- Objects after their opening brace. -/
theorem tracks_entries {I : σ → τ → Prop} {p : σ → String → Scan σ} {q : τ → String → Scan τ}
    (h : ∀ s t key cs, I s t → Tracks mayFail (Abreast I) (p s key cs) (q t key cs))
    {s : σ} {t : τ} (hst : I s t) (cs : List Char) :
    Tracks mayFail (Abreast I) (entries p s cs) (entries q t cs) :=
  tracks_entriesFrom h _ true hst cs

end

/-! ### Documents -/

section

variable {α β : Type} {R : α → β → Prop} {build : Builder α} {build' : Builder β}

/-- A numeral, if related builders make something of it. -/
theorem tracks_number (h : build.Relates R build') (cs : List Char) :
    Tracks False (Abreast R) (number build.number? cs) (number build'.number? cs) := by
  unfold number
  cases hcs : numeral cs with
  | error e => trivial
  | ok result =>
      obtain ⟨n, rest⟩ := result
      simp only [except_ok_bind]
      cases hn : build.number? n with
      | none => trivial
      | some a =>
          obtain ⟨b, hb, hab⟩ := h.number hcs hn
          rw [hb]
          exact ⟨hab, rfl⟩

/-- An entry is taken into the entries so far, which stay related. -/
theorem tracks_member {p : Scan α} {q : Scan β}
    (h : ∀ cs, Tracks False (Abreast R) (p cs) (q cs)) (entries : Entries α)
    (entries' : Entries β) (key : String) (cs : List Char)
    (hentries : List.Forall₂ (Keyed R) entries entries') :
    Tracks False (Abreast (List.Forall₂ (Keyed R))) (member p entries key cs)
      (member q entries' key cs) := by
  refine .bind_same _ fun rest => .bind (h rest) ?_
  rintro ⟨a, after⟩ ⟨b, _⟩ ⟨hab, rfl⟩
  exact ⟨Entries.keyed_insert hentries key hab, rfl⟩

/-- One value, if that is so of its parts. -/
theorem tracks_valueWith (h : build.Relates R build') {inner : Option (Scan α)}
    {inner' : Option (Scan β)}
    (hinner : ∀ p ∈ inner, ∃ q ∈ inner', ∀ cs, Tracks False (Abreast R) (p cs) (q cs))
    (cs : List Char) :
    Tracks False (Abreast R) (valueWith build inner cs) (valueWith build' inner' cs) := by
  -- Both look at the first character in the same way, so one split serves both.
  unfold valueWith
  generalize skipSpaces cs = cs
  split
  · trivial
  · exact .bind_same _ fun rest => ⟨h.null, rfl⟩
  · exact .bind_same _ fun rest => ⟨h.bool true, rfl⟩
  · exact .bind_same _ fun rest => ⟨h.bool false, rfl⟩
  · refine .bind_same _ ?_
    rintro ⟨s, rest⟩
    exact ⟨h.string s, rfl⟩
  · cases inner with
    | none => trivial
    | some p =>
        obtain ⟨q, rfl, hpq⟩ := hinner p rfl
        refine .bind (tracks_items hpq _) ?_
        rintro ⟨as, rest⟩ ⟨bs, _⟩ ⟨habs, rfl⟩
        exact ⟨h.array habs, rfl⟩
  · cases inner with
    | none => trivial
    | some p =>
        obtain ⟨q, rfl, hpq⟩ := hinner p rfl
        refine .bind (tracks_entries (tracks_member hpq) .nil _) ?_
        rintro ⟨as, rest⟩ ⟨bs, _⟩ ⟨habs, rfl⟩
        exact ⟨h.object habs, rfl⟩
  · split
    · exact tracks_number h _
    · trivial

/-- Where one builder has a result, a related one has a related result
and leaves the same text over. -/
theorem tracks_valueOf (h : build.Relates R build') (levels : Nat) (cs : List Char) :
    Tracks False (Abreast R) (valueOf build levels cs) (valueOf build' levels cs) := by
  induction levels generalizing cs with
  | zero => exact tracks_valueWith h (by rintro _ ⟨⟩) cs
  | succ levels ih =>
      refine tracks_valueWith h ?_ cs
      rintro _ ⟨⟩
      exact ⟨_, rfl, ih⟩

end

end Scan

end Json

end FilterSql
