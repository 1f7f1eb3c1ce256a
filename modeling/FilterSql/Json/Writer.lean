import FilterSql.Binary64.Shortest
import FilterSql.Json.Basic

/-!
# `FilterSql.Json.Writer`: JSON text

The two ways in which a value is written: without any blanks, for
error messages and stored settings, and spread over lines, for
people. Strings and numbers look the same in both.

* `Json.compact`: no blanks at all.
* `Json.pretty`: one entry a line, two spaces for each level.
* `Json.Number.text`: integers in decimal, doubles with the fewest
  digits that read back.
-/

set_option autoImplicit false

namespace FilterSql.Json

/-! ### Strings -/

/-- A digit below sixteen in lower case. -/
def hexDigit (n : Nat) : Char :=
  if n < 10 then Char.ofNat (48 + n) else Char.ofNat (87 + n)

/-- One character inside a string: quotes, backslashes and control
characters are escaped, with a short form where the format has one,
and everything else stands for itself. -/
def escaped (c : Char) : List Char :=
  if c = '"' then ['\\', '"']
  else if c = '\\' then ['\\', '\\']
  else if c = '\x08' then ['\\', 'b']
  else if c = '\t' then ['\\', 't']
  else if c = '\n' then ['\\', 'n']
  else if c = '\x0c' then ['\\', 'f']
  else if c = '\r' then ['\\', 'r']
  else if c.toNat < 0x20 then
    ['\\', 'u', '0', '0', hexDigit (c.toNat / 16), hexDigit (c.toNat % 16)]
  else [c]

/-- A string between quotes. -/
def quoted (s : String) : String :=
  String.ofList ('"' :: s.toList.flatMap escaped ++ ['"'])

/-! ### Numbers -/

/-- Where a double is written without an exponent: from the fifth
place after the point up to sixteen digits before it. -/
def positional (leading : Int) : Bool :=
  -5 ≤ leading && leading ≤ 15

/-- A run of zeros. -/
def zeros (n : Nat) : List Char :=
  List.replicate n '0'

/-- A double's absolute value. Without an exponent there is always a
fractional part; with one, the exponent has a sign and a single digit
stands without a point. -/
def magnitude (x : Binary64) : List Char :=
  let d := x.shortest
  let digits := Nat.toDigits 10 d.digits
  if positional d.leading then
    if d.leading < 0 then
      '0' :: '.' :: zeros (-d.leading - 1).toNat ++ digits
    else
      let before := d.leading.toNat + 1
      let fraction := digits.drop before
      digits.take before ++ zeros (before - digits.length) ++
        '.' :: (if fraction.isEmpty then ['0'] else fraction)
  else
    let fraction := digits.drop 1
    digits.take 1 ++ (if fraction.isEmpty then [] else '.' :: fraction) ++
      'e' :: (if d.leading < 0 then '-' else '+') ::
        Nat.toDigits 10 d.leading.natAbs

/-- A number as it is written. -/
def Number.text : Number → String
  | .integer i => toString i.val
  | .double x =>
    String.ofList ((if x.negative then ['-'] else []) ++ magnitude x)

/-! ### Values -/

mutual

/-- The value without blanks. -/
def compact : Json → String
  | .null => "null"
  | .bool b => if b then "true" else "false"
  | .number n => n.text
  | .string s => quoted s
  | .array [] => "[]"
  | .array (v :: items) => "[" ++ compact v ++ compactItems items
  | .object [] => "\x7b\x7d"
  | .object ((key, v) :: fields) =>
    "\x7b" ++ quoted key ++ ":" ++ compact v ++ compactFields fields

/-- The items after the first, and the closing bracket. -/
def compactItems : List Json → String
  | [] => "]"
  | v :: items => "," ++ compact v ++ compactItems items

/-- The entries after the first, and the closing brace. -/
def compactFields : List (String × Json) → String
  | [] => "\x7d"
  | (key, v) :: fields =>
    "," ++ quoted key ++ ":" ++ compact v ++ compactFields fields

end

/-- A new line at the given level. -/
def newLine (level : Nat) : String :=
  "\n" ++ String.ofList (List.replicate (2 * level) ' ')

mutual

/-- The value spread over lines, as part of a document at the given
level. Empty arrays and objects stay together. -/
def prettyAt (level : Nat) : Json → String
  | .null => "null"
  | .bool b => if b then "true" else "false"
  | .number n => n.text
  | .string s => quoted s
  | .array [] => "[]"
  | .array (v :: items) =>
    "[" ++ newLine (level + 1) ++ prettyAt (level + 1) v ++
      prettyItems level items
  | .object [] => "\x7b\x7d"
  | .object ((key, v) :: fields) =>
    "\x7b" ++ newLine (level + 1) ++ quoted key ++ ": " ++
      prettyAt (level + 1) v ++ prettyFields level fields

/-- The items after the first, and the closing bracket. -/
def prettyItems (level : Nat) : List Json → String
  | [] => newLine level ++ "]"
  | v :: items =>
    "," ++ newLine (level + 1) ++ prettyAt (level + 1) v ++
      prettyItems level items

/-- The entries after the first, and the closing brace. -/
def prettyFields (level : Nat) : List (String × Json) → String
  | [] => newLine level ++ "\x7d"
  | (key, v) :: fields =>
    "," ++ newLine (level + 1) ++ quoted key ++ ": " ++
      prettyAt (level + 1) v ++ prettyFields level fields

end

/-- The value spread over lines. -/
def pretty (v : Json) : String :=
  prettyAt 0 v

end FilterSql.Json
