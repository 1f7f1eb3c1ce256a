import FilterSql.Json.Reader

/-!
# `FilterSql.Json.Pass`: values that are passed over

A value that nobody asked for has to be well formed, but it does not
have to mean anything: numbers may be of any size, surrogates need
not come in pairs, keys neither, and brackets may be nested without
limit. What is wrong is said in fewer words than for a value that is
read: a comma at the end just lacks the next part.

* `Json.Scan.pass`: passes over one value.
-/

set_option autoImplicit false

namespace FilterSql.Json.Scan

/-- Where inside a string that is passed over the reader stands. -/
inductive Passing where
  | outside
  | opened
  | hex (left : Nat) (valid : Bool)

/-- Passes over the rest of a string. Escapes must be well formed, but
surrogates need not come in pairs. -/
def passString : Passing → List Char → Except Failure (List Char)
  | _, [] => .error ⟨.endInString, [], 0⟩
  | .outside, c :: cs =>
    if c = '"' then .ok cs
    else if c = '\\' then passString .opened cs
    else if c.toNat < 0x20 then .error ⟨.controlCharacter, c :: cs, 0⟩
    else passString .outside cs
  | .opened, c :: cs =>
    if (shortEscape? c).isSome then passString .outside cs
    else if c = 'u' then passString (.hex 4 true) cs
    else .error ⟨.invalidEscape, c :: cs, 1⟩
  | .hex left valid, c :: cs =>
    let valid := valid && (hexValue? c).isSome
    if c.utf8Size < left then passString (.hex (left - c.utf8Size) valid) cs
    else if valid then passString .outside cs
    else .error ⟨.invalidEscape, c :: cs, left⟩

/-- Passes over a numeral, whatever its size. One that is cut off by
the end of the text counts as invalid. -/
def passNumeral (cs : List Char) : Except Failure (List Char) :=
  match numeral cs with
  | .ok (_, rest) => .ok rest
  | .error failure => .error ⟨.invalidNumber, failure.rest, failure.ahead⟩

/-! ### Arrays and objects -/

/-- The place before the next item of an array: `true` if there should
be one, `false` after the closing bracket. -/
def passMark (first : Bool) : Scan Bool := fun cs =>
  match skipSpaces cs with
  | [] => .error ⟨.endInList, [], 0⟩
  | ']' :: rest => .ok (false, rest)
  | c :: rest =>
    if first then .ok (true, c :: rest)
    else if c = ',' then .ok (true, rest)
    else .error ⟨.listEndExpected, c :: rest, 1⟩

/-- A key, which is passed over like any string. -/
def passKey (cs : List Char) : Except Failure (List Char) :=
  match skipSpaces cs with
  | [] => .error ⟨.endInObject, [], 0⟩
  | '"' :: rest => passString .outside rest
  | other => .error ⟨.keyExpected, other, 1⟩

/-- The next key of an object and the colon behind it: `true` if there
is one, `false` after the closing brace. -/
def passNextKey (first : Bool) : Scan Bool := fun cs =>
  match skipSpaces cs with
  | [] => .error ⟨.endInObject, [], 0⟩
  | '\x7d' :: rest => .ok (false, rest)
  | c :: rest =>
    if first || c = ',' then do
      let rest ← passKey (if first then c :: rest else rest)
      let rest ← colon rest
      .ok (true, rest)
    else .error ⟨.objectEndExpected, c :: rest, 1⟩

/-- Passes over the parts of an array or an object, up to its end.
`next` finds the next part. Every part takes at least one character,
so the length of the text is a large enough `limit`. -/
def passParts (next : Bool → Scan Bool) (inner : Scan Unit) :
    (limit : Nat) → (first : Bool) → Scan Unit
  | 0, _, cs => .error ⟨.endInValue, cs, 0⟩
  | limit + 1, first, cs => do
    let (more, cs) ← next first cs
    if more then
      let (_, cs) ← inner cs
      passParts next inner limit false cs
    else .ok ((), cs)

/-- Passes over a value whose parts `inner` passes over. -/
def passWith (inner : Scan Unit) : Scan Unit := fun cs =>
  match skipSpaces cs with
  | '"' :: rest => do
    let rest ← passString .outside rest
    .ok ((), rest)
  | '[' :: rest => passParts passMark inner (rest.length + 1) true rest
  | '\x7b' :: rest => passParts passNextKey inner (rest.length + 1) true rest
  | c :: rest =>
    if c = '-' || c.isDigit then do
      let rest ← passNumeral (c :: rest)
      .ok ((), rest)
    else do
      let (_, rest) ← valueWith .values none (c :: rest)
      .ok ((), rest)
  | [] => .error ⟨.endInValue, [], 0⟩

/-- Passes over a value in which at most `levels` brackets are open at
a time. -/
def passLevels : (levels : Nat) → Scan Unit
  | 0 => fun cs => .error ⟨.nesting, cs, 1⟩
  | levels + 1 => passWith (passLevels levels)

/-- Passes over a value. There are no more open brackets than
characters, so nesting is not limited. -/
def pass : Scan Unit := fun cs =>
  passLevels (cs.length + 1) cs

end FilterSql.Json.Scan
