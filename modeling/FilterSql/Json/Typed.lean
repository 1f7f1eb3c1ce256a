import FilterSql.Json.Reader
import FilterSql.Json.Writer
import FilterSql.Text.Printable

/-!
# `FilterSql.Json.Typed`: values of a wanted kind

Where a text is read for something in particular, a value of another
kind is a fault of its own. These scans read strings, lists of
strings and values that may be `null`, and word that fault.
-/

set_option autoImplicit false

namespace FilterSql.Json.Scan

/-- A character of a string that a message shows. Quotes, backslashes
and whatever cannot be seen are escaped. -/
def shown (c : Char) : List Char :=
  if c = '"' || c = '\\' then ['\\', c]
  else if c = '\n' then ['\\', 'n']
  else if c = '\r' then ['\\', 'r']
  else if c = '\t' then ['\\', 't']
  else if c.toNat = 0 then ['\\', '0']
  else if Text.isPrintable c then [c]
  else ['\\', 'u', '\x7b'] ++ Nat.toDigits 16 c.toNat ++ ['\x7d']

/-- What a message says of a value of the wrong kind. -/
def described : Json → String
  | .null => "null"
  | .bool b => "boolean `" ++ (if b then "true" else "false") ++ "`"
  | .number (.integer i) => "integer `" ++ toString i.val ++ "`"
  | .number (.double x) =>
    "floating point `" ++ Number.text (.double x) ++ "`"
  | .string s =>
    "string \"" ++ String.ofList (s.toList.flatMap shown) ++ "\""
  | .array _ => "sequence"
  | .object _ => "map"

/-- The failure for a value of another kind than `expected`. A value
without parts is read first, as it may be malformed; an array or an
object is refused at its bracket. -/
def mismatch (expected : String) (cs : List Char) : Failure :=
  let refuse (v : Json) (rest : List Char) : Failure :=
    ⟨.unfit ("invalid type: " ++ described v ++ ", expected " ++ expected),
      rest, 0⟩
  match skipSpaces cs with
  | '[' :: rest => refuse (.array []) ('[' :: rest)
  | '\x7b' :: rest => refuse (.object []) ('\x7b' :: rest)
  | cs =>
    match valueWith .values none cs with
    | .ok (v, rest) => refuse v rest
    | .error failure => failure

/-- What is left when a reader gives up inside an object: blanks and
the closing brace are still taken. -/
def abandoned (cs : List Char) : List Char :=
  match skipSpaces cs with
  | '\x7d' :: rest => rest
  | cs => cs

/-- The failure for a key that an object already had. -/
def repeatedKey (key : String) (cs : List Char) : Failure :=
  ⟨.unfit ("duplicate field `" ++ key ++ "`"), abandoned cs, 0⟩

/-- A string. -/
def text : Scan String := fun cs =>
  match skipSpaces cs with
  | '"' :: rest => string rest
  | cs => .error (mismatch "a string" cs)

/-- A list of strings. -/
def texts : Scan (List String) := fun cs =>
  match skipSpaces cs with
  | '[' :: rest => items text rest
  | cs => .error (mismatch "a sequence" cs)

/-- `null`, or what `item` reads. -/
def optional {α : Type} (item : Scan α) : Scan (Option α) := fun cs =>
  match skipSpaces cs with
  | 'n' :: rest => do
    let rest ← word ['u', 'l', 'l'] rest
    .ok (none, rest)
  | cs => do
    let (x, rest) ← item cs
    .ok (some x, rest)

end FilterSql.Json.Scan
