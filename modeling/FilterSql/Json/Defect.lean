/-!
# `FilterSql.Json.Defect`: what can be wrong with a JSON text

A reader that cannot go on says why and where. While reading, the
place is what is left of the text (`Failure`); for people it is a
line and a column (`Defect`). Columns count bytes of the UTF-8 form.

* `Reason.text`, `Reason.category`: wording and kind of each reason.
* `Failure.defect`: from the rest of the text to line and column.
-/

set_option autoImplicit false

namespace FilterSql.Json

/-- Why reading stopped. -/
inductive Reason where
  | endInValue
  | endInList
  | endInObject
  | endInString
  | valueExpected
  | wordExpected
  | keyExpected
  | colonExpected
  | listEndExpected
  | objectEndExpected
  | trailingComma
  | trailingCharacters
  | controlCharacter
  | invalidEscape
  | loneSurrogate
  | hexEscapeEnd
  | invalidNumber
  | numberRange
  | nesting
  /-- Well formed, but not what is wanted in this place. -/
  | unfit (text : String)
deriving DecidableEq

/-- The three kinds of reasons: the text breaks a rule of the format,
it ends too early, or it holds something else than is wanted. -/
inductive Category where
  | malformed
  | truncated
  | unfit
deriving DecidableEq

namespace Reason

/-- The wording of a reason. -/
def text : Reason → String
  | endInValue => "EOF while parsing a value"
  | endInList => "EOF while parsing a list"
  | endInObject => "EOF while parsing an object"
  | endInString => "EOF while parsing a string"
  | valueExpected => "expected value"
  | wordExpected => "expected ident"
  | keyExpected => "key must be a string"
  | colonExpected => "expected `:`"
  | listEndExpected => "expected `,` or `]`"
  | objectEndExpected => "expected `,` or `\x7d`"
  | trailingComma => "trailing comma"
  | trailingCharacters => "trailing characters"
  | controlCharacter =>
    "control character (\\u0000-\\u001F) found while parsing a string"
  | invalidEscape => "invalid escape"
  | loneSurrogate => "lone leading surrogate in hex escape"
  | hexEscapeEnd => "unexpected end of hex escape"
  | invalidNumber => "invalid number"
  | numberRange => "number out of range"
  | nesting => "recursion limit exceeded"
  | unfit text => text

/-- The kind of a reason. -/
def category : Reason → Category
  | endInValue | endInList | endInObject | endInString => .truncated
  | unfit _ => .unfit
  | _ => .malformed

end Reason

/-- A stop while reading: the reason, what was left of the text, and
how many bytes of that rest count as read. -/
structure Failure where
  reason : Reason
  rest : List Char
  ahead : Nat

/-- A place in a text. Lines count from one, columns from zero. -/
structure Position where
  line : Nat
  column : Nat
deriving DecidableEq

/-- The place `count` bytes further on in `cs`, or the end of `cs`. A
line feed that has been read starts a new line. -/
def Position.after (p : Position) (count : Nat) : List Char → Position
  | [] => p
  | c :: cs =>
    if count = 0 then p
    else if c = '\n' then Position.after ⟨p.line + 1, 0⟩ (count - 1) cs
    else
      Position.after ⟨p.line, p.column + min c.utf8Size count⟩
        (count - c.utf8Size) cs

/-- The number of bytes of the UTF-8 form. -/
def byteCount (cs : List Char) : Nat :=
  cs.foldl (fun n c => n + c.utf8Size) 0

/-- A reason with its place, as it is reported. -/
structure Defect where
  reason : Reason
  position : Position
deriving DecidableEq

/-- A position as the end of a message. -/
def Position.text (p : Position) : String :=
  " at line " ++ toString p.line ++ " column " ++ toString p.column

/-- The message of a defect. -/
def Defect.message (d : Defect) : String :=
  d.reason.text ++ d.position.text

/-- The defect of `text` that a stop while reading it stands for. -/
def Failure.defect (f : Failure) (text : List Char) : Defect where
  reason := f.reason
  position :=
    Position.after ⟨1, 0⟩ (byteCount text - byteCount f.rest + f.ahead) text

/-! ### Positions in foreign messages -/

/-- What is left of `cs` behind the given characters. -/
def after? : (front cs : List Char) → Option (List Char)
  | [], cs => some cs
  | _ :: _, [] => none
  | f :: front, c :: cs => if f = c then after? front cs else none

/-- The number that digits stand for, given in reverse; `none` if
there is no digit or the number does not fit into 64 bits. -/
def countOfReversed? (digits : List Char) : Option Nat :=
  let n := digits.foldr (fun c n => 10 * n + (c.toNat - 48)) 0
  if digits.isEmpty || 1 <<< 64 ≤ n then none else some n

/-- The position that a message ends in, and the message before it.
The message is given in reverse. -/
def placeOfReversed? (cs : List Char) : Option (List Char × Position) := do
  let column ← countOfReversed? (cs.takeWhile Char.isDigit)
  let cs ← after? " column ".toList.reverse (cs.dropWhile Char.isDigit)
  let line ← countOfReversed? (cs.takeWhile Char.isDigit)
  let cs ← after? " at line ".toList.reverse (cs.dropWhile Char.isDigit)
  return (cs, ⟨line, column⟩)

/-- A message whose end is read as a position, if it looks like one:
the numbers are written plainly, and line zero means that there is no
position. -/
def withPlace (message : String) : String :=
  match placeOfReversed? message.toList.reverse with
  | none => message
  | some (front, position) =>
    let front := String.ofList front.reverse
    if position.line = 0 then front else front ++ position.text

end FilterSql.Json
