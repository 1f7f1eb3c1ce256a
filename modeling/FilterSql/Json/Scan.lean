import FilterSql.Json.Defect
import FilterSql.Json.Numeral

/-!
# `FilterSql.Json.Scan`: the words of a JSON text

A scan takes something off the front of a text and gives back what is
left, or says why it cannot. This module has the scans for what has
no parts: blanks, words, strings, numerals, and the marks that stand
between the parts of arrays and objects.

A failure names the rest of the text at the place where reading
stopped. A character that was only looked at counts as one byte
ahead, whatever its size.
-/

set_option autoImplicit false

namespace FilterSql.Json

/-- Takes an `α` off the front of a text. -/
abbrev Scan (α : Type) := List Char → Except Failure (α × List Char)

namespace Scan

/-- Blanks between the words of a JSON text. -/
def isSpace (c : Char) : Bool :=
  c = ' ' || c = '\t' || c = '\n' || c = '\r'

/-- A text without the blanks at its front. -/
def skipSpaces (cs : List Char) : List Char :=
  cs.dropWhile isSpace

/-! ### Words -/

/-- Takes the given characters off a text. -/
def word : List Char → List Char → Except Failure (List Char)
  | [], cs => .ok cs
  | _ :: _, [] => .error ⟨.endInValue, [], 0⟩
  | e :: expected, c :: cs =>
    if c = e then word expected cs else .error ⟨.wordExpected, c :: cs, 1⟩

/-! ### Strings -/

/-- The character for a short escape. -/
def shortEscape? (c : Char) : Option Char :=
  if c = '"' then some '"'
  else if c = '\\' then some '\\'
  else if c = '/' then some '/'
  else if c = 'b' then some '\x08'
  else if c = 'f' then some '\x0c'
  else if c = 'n' then some '\n'
  else if c = 'r' then some '\r'
  else if c = 't' then some '\t'
  else none

/-- The value of a hexadecimal digit in either case. -/
def hexValue? (c : Char) : Option Nat :=
  if '0' ≤ c ∧ c ≤ '9' then some (c.toNat - 48)
  else if 'a' ≤ c ∧ c ≤ 'f' then some (c.toNat - 87)
  else if 'A' ≤ c ∧ c ≤ 'F' then some (c.toNat - 55)
  else none

/-- A hexadecimal code with one digit more; `none` once a character
was no digit. -/
def pushHex (code : Option Nat) (c : Char) : Option Nat :=
  code.bind fun n => (hexValue? c).map (16 * n + ·)

/-- First halves of a surrogate pair. -/
def isLead (n : Nat) : Bool :=
  0xD800 ≤ n && n ≤ 0xDBFF

/-- Second halves of a surrogate pair. -/
def isTrail (n : Nat) : Bool :=
  0xDC00 ≤ n && n ≤ 0xDFFF

/-- The character of a surrogate pair. -/
def pairChar (lead trail : Nat) : Char :=
  Char.ofNat (0x10000 + (lead - 0xD800) * 0x400 + (trail - 0xDC00))

/-- Where inside a string the reader stands. -/
inductive Escape where
  /-- Outside an escape. -/
  | outside
  /-- After a backslash. -/
  | opened
  /-- In a hexadecimal escape of which `left` bytes are to come. A
  `lead` is the first half of a pair that this escape has to end. -/
  | hex (lead : Option Nat) (left : Nat) (code : Option Nat)
  /-- After the first half of a pair. -/
  | paired (lead : Nat)
  /-- After the first half of a pair and a backslash. -/
  | pairedOpened (lead : Nat)

/-- The start of a hexadecimal escape. -/
def Escape.hexStart (lead : Option Nat) : Escape :=
  .hex lead 4 (some 0)

/-- The rest of a string after its opening quote; `seen` holds the
characters so far, the last one first. -/
def stringFrom (seen : List Char) : Escape → Scan String
  | _, [] => .error ⟨.endInString, [], 0⟩
  | .outside, c :: cs =>
    if c = '"' then .ok (String.ofList seen.reverse, cs)
    else if c = '\\' then stringFrom seen .opened cs
    else if c.toNat < 0x20 then .error ⟨.controlCharacter, c :: cs, 1⟩
    else stringFrom (c :: seen) .outside cs
  | .opened, c :: cs =>
    match shortEscape? c with
    | some d => stringFrom (d :: seen) .outside cs
    | none =>
      if c = 'u' then stringFrom seen (.hexStart none) cs
      else .error ⟨.invalidEscape, c :: cs, 1⟩
  | .hex lead left code, c :: cs =>
    -- Four bytes are taken before it is asked whether they are digits.
    if c.utf8Size < left then
      stringFrom seen (.hex lead (left - c.utf8Size) (pushHex code c)) cs
    else
      match lead, pushHex code c with
      | _, none => .error ⟨.invalidEscape, c :: cs, left⟩
      | none, some n =>
        if isTrail n then .error ⟨.loneSurrogate, cs, 0⟩
        else if isLead n then stringFrom seen (.paired n) cs
        else stringFrom (Char.ofNat n :: seen) .outside cs
      | some l, some n =>
        if isTrail n then stringFrom (pairChar l n :: seen) .outside cs
        else .error ⟨.loneSurrogate, cs, 0⟩
  | .paired lead, c :: cs =>
    if c = '\\' then stringFrom seen (.pairedOpened lead) cs
    else .error ⟨.hexEscapeEnd, c :: cs, 1⟩
  | .pairedOpened lead, c :: cs =>
    if c = 'u' then stringFrom seen (.hexStart (some lead)) cs
    else .error ⟨.hexEscapeEnd, c :: cs, 1⟩

/-- A string after its opening quote. -/
def string : Scan String :=
  stringFrom [] .outside

/-! ### Numerals -/

/-- The digits before the point: a zero alone, or a run of digits
that does not start with zero. -/
def wholeDigits : Scan (List Char)
  | [] => .error ⟨.endInValue, [], 0⟩
  | c :: cs =>
    if c = '0' then
      if (cs.head?.map Char.isDigit).getD false then
        .error ⟨.invalidNumber, cs, 1⟩
      else .ok ([c], cs)
    else if c.isDigit then
      .ok (c :: cs.takeWhile Char.isDigit, cs.dropWhile Char.isDigit)
    else .error ⟨.invalidNumber, c :: cs, 1⟩

/-- The digits after a point; none if there is no point. -/
def fractionDigits : Scan (List Char)
  | '.' :: [] => .error ⟨.endInValue, [], 0⟩
  | '.' :: c :: cs =>
    if c.isDigit then
      .ok (c :: cs.takeWhile Char.isDigit, cs.dropWhile Char.isDigit)
    else .error ⟨.invalidNumber, c :: cs, 1⟩
  | cs => .ok ([], cs)

/-- The sign of an exponent, which may be missing. -/
def exponentSign : List Char → Bool × List Char
  | '+' :: cs => (false, cs)
  | '-' :: cs => (true, cs)
  | cs => (false, cs)

/-- An exponent after its mark. -/
def exponentBody (cs : List Char) : Except Failure (Exponent × List Char) :=
  let (negative, digits) := exponentSign cs
  match digits with
  | [] => .error ⟨.endInValue, [], 0⟩
  | c :: rest =>
    if c.isDigit then
      .ok (⟨negative, c :: rest.takeWhile Char.isDigit⟩,
        rest.dropWhile Char.isDigit)
    else .error ⟨.invalidNumber, c :: rest, 1⟩

/-- An exponent, if one follows. -/
def exponentPart : Scan (Option Exponent)
  | [] => .ok (none, [])
  | c :: cs =>
    if c = 'e' || c = 'E' then do
      let (e, rest) ← exponentBody cs
      .ok (some e, rest)
    else .ok (none, c :: cs)

/-- The sign of a numeral. -/
def numeralSign : List Char → Bool × List Char
  | '-' :: cs => (true, cs)
  | cs => (false, cs)

/-- A numeral. -/
def numeral : Scan Numeral := fun cs => do
  let (negative, cs) := numeralSign cs
  let (whole, cs) ← wholeDigits cs
  let (fraction, cs) ← fractionDigits cs
  let (exponent, cs) ← exponentPart cs
  .ok (⟨negative, whole, fraction, exponent⟩, cs)

/-- What `number?` makes of a numeral, unless it is out of range. -/
def number {α : Type} (number? : Numeral → Option α) : Scan α := fun cs => do
  let (n, rest) ← numeral cs
  match number? n with
  | some value => .ok (value, rest)
  | none => .error ⟨.numberRange, n.unreadAtRange ++ rest, 0⟩

/-! ### Marks inside arrays and objects -/

/-- The place before the next item of an array: `true` if there is
one, `false` after the closing bracket. Every item but the first
comes after a comma. -/
def nextItem (first : Bool) : Scan Bool := fun cs =>
  match skipSpaces cs with
  | [] => .error ⟨.endInList, [], 0⟩
  | ']' :: rest => .ok (false, rest)
  | c :: rest =>
    if first then .ok (true, c :: rest)
    else if c = ',' then
      match skipSpaces rest with
      | [] => .error ⟨.endInValue, [], 0⟩
      | ']' :: after => .error ⟨.trailingComma, ']' :: after, 1⟩
      | item => .ok (true, item)
    else .error ⟨.listEndExpected, c :: rest, 1⟩

/-- The next key of an object, or `none` after the closing brace.
Every key but the first comes after a comma. -/
def nextKey (first : Bool) : Scan (Option String) := fun cs =>
  match skipSpaces cs with
  | [] => .error ⟨.endInObject, [], 0⟩
  | '\x7d' :: rest => .ok (none, rest)
  | c :: rest =>
    if first then
      if c = '"' then do
        let (key, rest) ← string rest
        .ok (some key, rest)
      else .error ⟨.keyExpected, c :: rest, 1⟩
    else if c = ',' then
      match skipSpaces rest with
      | [] => .error ⟨.endInValue, [], 0⟩
      | '"' :: after => do
        let (key, rest) ← string after
        .ok (some key, rest)
      | '\x7d' :: after => .error ⟨.trailingComma, '\x7d' :: after, 1⟩
      | other => .error ⟨.keyExpected, other, 1⟩
    else .error ⟨.objectEndExpected, c :: rest, 1⟩

/-- The colon between a key and its value. -/
def colon (cs : List Char) : Except Failure (List Char) :=
  match skipSpaces cs with
  | [] => .error ⟨.endInObject, [], 0⟩
  | ':' :: rest => .ok rest
  | other => .error ⟨.colonExpected, other, 1⟩

/-- Nothing but blanks may follow a document. -/
def ending (cs : List Char) : Except Failure Unit :=
  match skipSpaces cs with
  | [] => .ok ()
  | rest => .error ⟨.trailingCharacters, rest, 1⟩

/-! ### Arrays and objects -/

/-- The items of an array, `seen` being those so far, the last one
first. Every item takes at least one character, so the length of the
text is a large enough `limit`. -/
def itemsFrom {α : Type} (item : Scan α) :
    (limit : Nat) → (first : Bool) → (seen : List α) → Scan (List α)
  | 0, _, _, cs => .error ⟨.endInList, cs, 0⟩
  | limit + 1, first, seen, cs => do
    let (more, cs) ← nextItem first cs
    if more then
      let (x, cs) ← item cs
      itemsFrom item limit false (x :: seen) cs
    else .ok (seen.reverse, cs)

/-- The items of an array after its opening bracket. -/
def items {α : Type} (item : Scan α) : Scan (List α) := fun cs =>
  itemsFrom item (cs.length + 1) true [] cs

/-- The entries of an object. `entry` reads on after a key, from the
colon to the end of the value, and takes it into the state. The
length of the text is a large enough `limit`. -/
def entriesFrom {σ : Type} (entry : σ → String → Scan σ) :
    (limit : Nat) → (first : Bool) → (state : σ) → Scan σ
  | 0, _, _, cs => .error ⟨.endInObject, cs, 0⟩
  | limit + 1, first, state, cs => do
    let (key, cs) ← nextKey first cs
    match key with
    | none => .ok (state, cs)
    | some key =>
      let (state, cs) ← entry state key cs
      entriesFrom entry limit false state cs

/-- The entries of an object after its opening brace. -/
def entries {σ : Type} (entry : σ → String → Scan σ) (start : σ) : Scan σ :=
  fun cs => entriesFrom entry (cs.length + 1) true start cs

end Scan

end FilterSql.Json
