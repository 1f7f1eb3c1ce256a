import FilterSql.CommandLine.Basic
import FilterSql.Text.Segments

/-!
# `FilterSql.CommandLine.Parse`: understanding a command line

Arguments are read from left to right. `--name value`, `--name=value`,
`-n value`, `-nvalue` and `-n=value` all mean the same; after `--`
nothing is an option any more. The global options may stand in front
of the command and behind it.

An option that has its value waits until the next argument is
understood: only then its value is checked. So an argument that is
unknown is reported before a bad value right in front of it. What
stands behind the command is checked before what stands in front.

* `parse`: from arguments and environment to an invocation.
-/

set_option autoImplicit false

namespace FilterSql.CommandLine

open Settings (Options)

/-- Environment variables by name. -/
abbrev Environment := List (String × String)

/-- What has been given in one part of a command line. -/
structure Given where
  options : Options := {}
  filter : Option String := none
  file : Option String := none
  format : Option Format := none

namespace Given

/-- Whether an option has been given. -/
def has (given : Given) : Opt → Bool
  | .config => given.options.config.isSome
  | .backend => given.options.backend.isSome
  | .metadataColumn => given.options.metadataColumn.isSome
  | .specificColumn => given.options.specificColumns.isSome
  | .file => given.file.isSome
  | .format => given.format.isSome

/-- A path must not be empty. -/
def path (value : String) : Except Usage String :=
  if value = "" then .error .invalidValue else .ok value

/-- Takes the value of an option in. -/
def put (given : Given) (option : Opt) (value : String) :
    Except Usage Given :=
  match option with
  | .config => do
    let path ← path value
    .ok { given with options.config := some path }
  | .backend =>
    match Sql.Backend.parse? value with
    | none => .error .unknownBackend
    | some backend => .ok { given with options.backend := some backend }
  | .metadataColumn =>
    .ok { given with options.metadataColumn := some value }
  | .specificColumn =>
    let columns := given.options.specificColumns.getD []
    .ok { given with
      options.specificColumns := some (columns ++ Text.segments ',' value) }
  | .file => do
    let path ← path value
    .ok { given with file := some path }
  | .format =>
    match Format.ofName? value with
    | none => .error .invalidValue
    | some format => .ok { given with format := some format }

/-- Takes the value of an option in. Only dedicated columns may be
given more than once; a second value of another option is a mistake
even before it is looked at. -/
def set (given : Given) (option : Opt) (value : String) :
    Except Usage Given :=
  if option ≠ .specificColumn && given.has option then .error .conflict
  else given.put option value

/-- Fills the options that are not given from the environment. A
variable that is set counts even if it is empty. -/
def fill (env : Environment) (given : Given) :
    List Opt → Except Usage Given
  | [] => .ok given
  | option :: rest =>
    match given.has option, option.environmentName?.bind fun name => env.lookup name with
    | false, some value => do
      let given ← given.put option value
      given.fill env rest
    | _, _ => given.fill env rest

/-- Whether nothing has been given. -/
def isEmpty (given : Given) : Bool :=
  Opt.global.all fun option => !given.has option

end Given

/-! ### Single arguments -/

/-- An argument, by its looks alone. -/
inductive Argument where
  /-- `--` -/
  | separator
  /-- `--name` or `--name=value` -/
  | long (name : String) (value : Option String)
  /-- `-n` or `-nvalue` -/
  | short (name : Char) (rest : List Char)
  | plain (text : String)

/-- The name and the value of a long option. -/
def splitLong (cs : List Char) : String × Option String :=
  match cs.dropWhile (· ≠ '=') with
  | [] => (String.ofList cs, none)
  | _ :: value =>
    (String.ofList (cs.takeWhile (· ≠ '=')), some (String.ofList value))

/-- What an argument looks like. A single dash is plain. -/
def Argument.of (text : String) : Argument :=
  match text.toList with
  | ['-', '-'] => .separator
  | '-' :: '-' :: cs =>
    let (name, value) := splitLong cs
    .long name value
  | '-' :: c :: cs => .short c cs
  | _ => .plain text

/-- The value that is attached to a short option, an equals sign in
front of it not counted. -/
def attached : List Char → Option String
  | [] => none
  | '=' :: cs => some (String.ofList cs)
  | cs => some (String.ofList cs)

/-- An argument that is not a plain one, inside a given part. -/
inductive Flag where
  | option (option : Opt) (value : Option String)
  /-- A request for information. -/
  | request (usage : Usage)
  | unneededValue
  | unknown

/-- A long option in a given part. -/
def Scope.longFlag (scope : Scope) (name : String) (value : Option String) :
    Flag :=
  match scope.options.find? fun option => option.long = name with
  | some option => .option option value
  | none =>
    let request : Option Usage :=
      if name = "help" then some .help
      else if name = "version" && scope = .top then some .version
      else none
    match request, value with
    | none, _ => .unknown
    | some _, some _ => .unneededValue
    | some usage, none => .request usage

/-- A short option in a given part. -/
def Scope.shortFlag (scope : Scope) (name : Char) (rest : List Char) : Flag :=
  match scope.options.find? fun option => option.short? = some name with
  | some option => .option option (attached rest)
  | none =>
    if name = 'h' then .request .help
    else if name = 'V' && scope = .top then .request .version
    else .unknown

/-! ### One part of a command line -/

/-- The command that asks for help. -/
def helpName : String := "help"

/-- Whether a command has this name. -/
def isCommandName (name : String) : Bool :=
  (Scope.ofCommand? name).isSome || name = helpName

/-- An option whose value is still to be checked, or still to come. -/
structure Waiting where
  option : Opt
  value : Option String

/-- Where reading stands inside one part. -/
structure State where
  given : Given := {}
  waiting : Option Waiting := none
  /-- After `--` everything is plain. -/
  separated : Bool := false

namespace State

/-- Checks the option that waits, if there is one. -/
def settled (s : State) : Except Usage Given :=
  match s.waiting with
  | none => .ok s.given
  | some ⟨_, none⟩ => .error .invalidValue
  | some ⟨option, some value⟩ => s.given.set option value

/-- The option that still needs its value. -/
def needing (s : State) : Option Opt :=
  match s.waiting with
  | some ⟨option, none⟩ => some option
  | _ => none

/-- Takes in an argument that is not plain. -/
def takeFlag (s : State) : Flag → Except Usage State
  | .unknown => .error .unknownArgument
  | .unneededValue => .error .unneededValue
  | .request usage => do
    -- A bad value in front of the request is reported instead.
    let _ ← s.settled
    .error usage
  | .option option none => do
    let given ← s.settled
    .ok { s with given, waiting := some ⟨option, none⟩ }
  | .option option (some value) => do
    let given ← s.settled
    let given ← given.set option value
    .ok { s with given, waiting := none }

/-- Takes in a plain argument that is not the value of an option. Only
a filter can be one. -/
def takePlain (scope : Scope) (s : State) (text : String) :
    Except Usage State :=
  if scope = .compile && s.given.filter.isNone then do
    let given ← s.settled
    .ok { s with given := { given with filter := some text }, waiting := none }
  else if scope = .top && !(s.separated && isCommandName text) then
    .error .unknownCommand
  else .error .unknownArgument

/-- Takes in one argument. -/
def take (scope : Scope) (s : State) (text : String) : Except Usage State :=
  if s.separated then s.takePlain scope text
  else
    match Argument.of text with
    | .separator => .ok { s with separated := true }
    | .long name value => s.takeFlag (scope.longFlag name value)
    | .short name rest => s.takeFlag (scope.shortFlag name rest)
    | .plain text =>
      match s.needing with
      | some option => .ok { s with waiting := some ⟨option, some text⟩ }
      | none => s.takePlain scope text

/-- Takes in all arguments behind a command. -/
def takeAll (scope : Scope) (s : State) : List String → Except Usage State
  | [] => .ok s
  | text :: rest => do
    let s ← s.take scope text
    s.takeAll scope rest

end State

/-- Reads the arguments behind a command: what was given there, and
the same with the environment filled in. -/
def readCommand (env : Environment) (scope : Scope) (args : List String) :
    Except Usage (Given × Given) := do
  let s ← ({} : State).takeAll scope args
  let given ← s.settled
  let filled ← given.fill env Opt.global
  if filled.filter.isSome && filled.file.isSome then .error .conflict
  else .ok (given, filled)

/-! ### Whole command lines -/

/-- What help about the given names comes to. There is help on every
command, but no command has commands of its own. -/
def helpOn : List String → Usage
  | [] => .help
  | [name] => if isCommandName name then .help else .unknownCommand
  | _ => .unknownCommand

/-- Reads up to the command: the state in front of it, the command
and its arguments. -/
def readTop (s : State) :
    List String → Except Usage (State × Option (Scope × List String))
  | [] => .ok (s, none)
  | text :: rest =>
    if s.separated || s.needing.isSome then do
      let s ← s.take .top text
      readTop s rest
    else if text = helpName then .error (helpOn rest)
    else
      match Scope.ofCommand? text with
      | some scope => .ok (s, some (scope, rest))
      | none => do
        let s ← s.take .top text
        readTop s rest

/-- The value behind the command, else the one in front of it, else
the one from the environment. -/
def Options.merged (behind front filled : Options) : Options where
  config := behind.config <|> front.config <|> filled.config
  backend := behind.backend <|> front.backend <|> filled.backend
  metadataColumn :=
    behind.metadataColumn <|> front.metadataColumn <|> filled.metadataColumn
  specificColumns :=
    behind.specificColumns <|> front.specificColumns <|>
      filled.specificColumns

/-- The command that a part of a command line stands for. -/
def Scope.command (scope : Scope) (given : Given) : Command :=
  match scope with
  | .operators => .operators
  | _ => .compile given.filter given.file (given.format.getD .text)

/-- Understands a command line. The name of the program is not part
of it. -/
def parse (env : Environment) (args : List String) :
    Except Usage Invocation := do
  let (s, command) ← readTop {} args
  match command with
  | some (scope, rest) =>
    let (behind, filled) ← readCommand env scope rest
    let front ← s.settled
    -- A variable is checked here even if its option stands behind the command.
    let _ ← front.fill env Opt.global
    .ok
      { command := scope.command behind
        options := Options.merged behind.options front.options filled.options }
  | none =>
    let front ← s.settled
    let front ← front.fill env Opt.global
    if front.isEmpty then .error .nothingGiven else .error .commandMissing

end FilterSql.CommandLine
