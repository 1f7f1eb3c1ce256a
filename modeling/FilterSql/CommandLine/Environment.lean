import FilterSql.CommandLine.Parse
import FilterSql.Text.Alphanumeric
import FilterSql.Text.Blank

/-!
# `FilterSql.CommandLine.Environment`: variables from a file

A file in the current directory can stand in for environment
variables. Each statement gives one, `NAME=value`; lines that are
blank or start with `#` say nothing. A value can be quoted: between
single quotes everything stands for itself, between double quotes and
outside a backslash escapes the next character. A dollar sign puts in
the value of another variable. A line feed between quotes is part of
the value, so a statement can take several lines.

* `Environment.statements`: a text cut into its statements.
* `Environment.extended`: the environment with the variables of a
  file. A variable that is set already keeps its value, and a
  statement that cannot be read ends the file.
-/

set_option autoImplicit false

namespace FilterSql.CommandLine.Environment

/-! ### Values -/

/-- How a value goes on. -/
inductive Mode where
  | bare
  | single
  | double
deriving DecidableEq

/-- A reference to another variable that is being read. Its name is
made of letters and digits. -/
inductive Reference where
  /-- `$NAME`; the name so far, the last character first. -/
  | name (seen : List Char)
  /-- The same between braces. -/
  | braced (seen : List Char)

/-- Where reading stands inside a value. -/
structure Reading where
  mode : Mode := .bare
  escaped : Bool := false
  /-- After a blank outside quotes only a comment may follow. -/
  ended : Bool := false
  reference : Option Reference := none
  /-- The value so far, the last character first. -/
  output : List Char := []

namespace Reading

/-- Puts characters at the end of the value. -/
def push (r : Reading) (cs : List Char) : Reading :=
  { r with output := cs.reverse ++ r.output }

/-- Puts in the value of a variable; one that is not set is empty. -/
def refer (env : Environment) (r : Reading) (seen : List Char) : Reading :=
  { r with reference := none }.push
    ((env.lookup (String.ofList seen.reverse)).getD "").toList

/-- A character that a backslash may stand in front of. -/
def unescaped? (c : Char) : Option Char :=
  if c = '\\' || c = '\x27' || c = '"' || c = '$' || c = ' ' then some c
  else if c = 'n' then some '\n'
  else none

/-- A character of a reference. -/
def stepReference (env : Environment) (r : Reading) (c : Char) :
    Reference → Reading
  | .name seen =>
    if Text.isAlphanumeric c then
      { r with reference := some (.name (c :: seen)) }
    else if c = '\x7b' && seen.isEmpty then
      { r with reference := some (.braced []) }
    else if c = '$' then
      { r.refer env seen with reference := some (.name []) }
    else (r.refer env seen).push [c]
  | .braced seen =>
    if c = '\x7d' then r.refer env seen
    else { r with reference := some (.braced (c :: seen)) }

/-- A character outside escapes and references. -/
def stepPlain (r : Reading) (c : Char) : Reading :=
  match r.mode with
  | .double =>
    if c = '"' then { r with mode := .bare }
    else if c = '\\' then { r with escaped := true }
    else r.push [c]
  | _ =>
    if c = '\x27' then { r with mode := .single }
    else if c = '"' then { r with mode := .double }
    else if c = '\\' then { r with escaped := true }
    else if c = ' ' || c = '\t' then { r with ended := true }
    else r.push [c]

/-- One character of a value; `none` if it may not stand there. -/
def step? (env : Environment) (r : Reading) (c : Char) : Option Reading :=
  if r.escaped then
    (unescaped? c).map fun d => { r with escaped := false }.push [d]
  else if r.mode = .single then
    some (if c = '\x27' then { r with mode := .bare } else r.push [c])
  else
    match r.reference with
    | some reference => some (r.stepReference env c reference)
    | none =>
      if c = '$' then some { r with reference := some (.name []) }
      else some (r.stepPlain c)

/-- The value at the end of its statement; `none` if something is
still open. -/
def finish? (env : Environment) (r : Reading) : Option String :=
  match r.mode, r.reference with
  | .bare, some (.name seen) =>
    some (String.ofList (r.refer env seen).output.reverse)
  | .bare, none => some (String.ofList r.output.reverse)
  | _, _ => none

/-- The rest of a value; `none` if it cannot be read. -/
def value? (env : Environment) (r : Reading) : List Char → Option String
  | [] => r.finish? env
  | c :: cs =>
    if r.ended then
      if c = ' ' || c = '\t' then r.value? env cs
      else if c = '#' then r.finish? env
      else none
    else (r.step? env c).bind fun r => r.value? env cs

end Reading

/-! ### Statements -/

/-- What a character of a statement stands in, as far as cutting a
text into statements goes. This is coarser than how values are read:
a backslash counts between single quotes too. -/
inductive Stand where
  | plain
  | afterBlank
  | escaped
  | single
  | singleEscaped
  | double
  | doubleEscaped
deriving DecidableEq

namespace Stand

/-- Outside quotes a mark opens something. -/
def opened (c : Char) : Stand :=
  if c = '\\' then escaped
  else if c = '"' then double
  else if c = '\x27' then single
  else plain

/-- After one more character; `none` if it starts a comment. Only the
first of several blanks makes the next character special. -/
def next? (stand : Stand) (c : Char) : Option Stand :=
  match stand with
  | plain =>
    if Text.isBlank c && c ≠ '\n' && c ≠ '\r' then some afterBlank
    else some (opened c)
  | afterBlank => if c = '#' then none else some (opened c)
  | escaped => some plain
  | single =>
    some (if c = '\\' then singleEscaped else if c = '\x27' then plain else single)
  | singleEscaped => some single
  | double =>
    some (if c = '\\' then doubleEscaped else if c = '"' then plain else double)
  | doubleEscaped => some double

/-- A line without the comment at its end, and how it ends; `none`
after a comment. -/
def atEnd (stand : Stand) : List Char → List Char × Option Stand
  | [] => ([], some stand)
  | c :: cs =>
    match stand.next? c with
    | none => ([], none)
    | some stand =>
      let (kept, last) := stand.atEnd cs
      (c :: kept, last)

end Stand

/-- The lines of a text with their line feeds. -/
def lines : List Char → List (List Char)
  | [] => []
  | c :: cs =>
    if c = '\n' then [c] :: lines cs
    else match lines cs with
      | [] => [[c]]
      | line :: rest => (c :: line) :: rest

/-- The statements of some lines, `begun` being the lines of the one
that is not finished yet. A statement that the end of the text cuts
off is `none`; a blank behind the last value is enough for that. -/
def statements (begun : List Char) (stand : Stand) :
    List (List Char) → List (Option String)
  | [] => if stand = .plain then [] else [none]
  | line :: rest =>
    if ((begun ++ line).dropWhile Text.isBlank).head? = some '#' then
      statements [] .plain rest
    else
      match stand.atEnd line with
      | (kept, none) =>
        some (String.ofList (begun ++ kept)) :: statements [] .plain rest
      | (_, some .plain) =>
        some (String.ofList (begun ++ line)) :: statements [] .plain rest
      | (_, some stand) => statements (begun ++ line) stand rest

/-- What a statement says. -/
inductive Meaning where
  | nothing
  | binding (name value : String)
  | unreadable

/-- The first character of a name. -/
def startsName (c : Char) : Bool :=
  c.isAlpha || c = '_'

/-- The other characters of a name. -/
def inName (c : Char) : Bool :=
  c.isAlphanum || c = '_' || c = '.'

/-- A name at the front of a statement, and the rest behind it. -/
def name? (cs : List Char) : Option (String × List Char) :=
  match cs with
  | [] => none
  | c :: _ =>
    if startsName c then
      some (String.ofList (cs.takeWhile inName),
        (cs.dropWhile inName).dropWhile Text.isBlank)
    else none

/-- A name and the text behind its equals sign. The word `export` may
stand in front. -/
def assignment? (cs : List Char) : Option (String × List Char) :=
  match name? cs with
  | none => none
  | some (name, '=' :: rest) => some (name, rest.dropWhile Text.isBlank)
  | some (word, rest) =>
    if word = "export" then
      match name? rest with
      | some (name, '=' :: rest) => some (name, rest.dropWhile Text.isBlank)
      | _ => none
    else none

/-- What a statement says, given the variables so far. -/
def meaning (env : Environment) (statement : String) : Meaning :=
  match (Text.trim statement).toList with
  | [] | '#' :: _ => .nothing
  | cs =>
    match assignment? cs with
    | none => .unreadable
    | some (name, []) | some (name, '#' :: _) => .binding name ""
    | some (name, value) =>
      match ({} : Reading).value? env value with
      | some value => .binding name value
      | none => .unreadable

/-- The environment after the given statements. -/
def afterStatements (env : Environment) :
    List (Option String) → Environment
  | [] | none :: _ => env
  | some statement :: rest =>
    match meaning env statement with
    | .nothing => afterStatements env rest
    | .unreadable => env
    | .binding name value =>
      if (env.lookup name).isSome then afterStatements env rest
      else afterStatements (env ++ [(name, value)]) rest

/-- A text without the byte order mark at its front. -/
def withoutMark : List Char → List Char
  | '\uFEFF' :: cs => cs
  | cs => cs

/-- The environment with the variables of a file. -/
def extended (env : Environment) (text : String) : Environment :=
  afterStatements env (statements [] .plain (lines (withoutMark text.toList)))

end FilterSql.CommandLine.Environment
