import FilterSql.CommandLine.Environment
import FilterSql.Compiler

/-!
# `FilterSql.Application`: one run of the program

A run as a function of everything that it can see: arguments,
environment, files and standard input. What it prints, the events
that it logs and its exit code are the result.
-/

set_option autoImplicit false

namespace FilterSql.Application

open CommandLine (Command Environment Format Invocation Usage)
open Settings (LoadError)

/-- What a run leaves behind. -/
structure Report where
  code : Nat
  stdout : String := ""
  events : List Event := []
  /-- The error message, if the run fails. -/
  error : Option String := none

/-- Why a command fails. -/
inductive Failure where
  | load (error : LoadError)
  | layout (error : Error)
  | file (path : String) (fault : ReadFault)
  | filter (error : Error)

/-- The error and its causes, outermost first. -/
def Failure.chain : Failure → List String
  | load error => error.chain
  | layout error => error.chain
  | file path fault =>
    ["Failed to read filter file: " ++ path, fault.message]
  | filter error => "Failed to compile filter" :: error.chain

/-- The message for a failure. -/
def Failure.message (failure : Failure) : String :=
  "Error: " ++ Text.joined ": " failure.chain

/-- The same outcome with another kind of error. -/
def failingWith {ε ε' α : Type} (wrap : ε → ε') (x : Traced ε α) :
    Traced ε' α :=
  ⟨x.events, x.outcome.mapError wrap⟩

/-! ### Output -/

/-- Parameters with their numbers, one a line. -/
def paramLines (number : Nat) : List String → String
  | [] => ""
  | param :: params =>
    "  " ++ toString number ++ ": " ++ param ++ "\n" ++
      paramLines (number + 1) params

/-- A clause as it is printed. -/
def printed (format : Format) (clause : WhereClause) : String :=
  match format with
  | .json => clause.toJson.pretty ++ "\n"
  | .text =>
    if clause.isEmpty then "(no filter)\n"
    else clause.sql ++ "\n" ++ paramLines 1 clause.params

/-- One line of the table of operators. -/
def operatorLine (symbol keyword form : String) : String :=
  Text.padRight 10 symbol ++ " " ++ Text.padRight 8 keyword ++ " " ++ form ++
    "\n"

/-- The table of operators. -/
def operatorTable : String :=
  Text.joined ""
    ([Connective.and, Connective.or].map (fun op =>
        operatorLine op.symbol op.keyword "logical") ++
      Comparison.all.map fun op =>
        operatorLine op.symbol op.keyword op.shape.name)

/-- The name and the version of the program. -/
def versionLine : String := "metafilter 0.1.0\n"

/-- How the program is used, in short. It stands for all texts that the
command line has for its users: the help of the program and of its
subcommands with all options, and the words in which a slip is pointed
out. Of these only the exit code and the stream are modelled, and that
something is printed. -/
def usageText : String :=
  "Compile metadata filters into parameterized SQL WHERE clauses\n\n" ++
  "Usage: metafilter [OPTIONS] <COMMAND>\n\n" ++
  "Commands:\n" ++
  "  compile    Compile a filter and print the WHERE clause with its parameters\n" ++
  "  operators  List supported operators and their SQL rendering\n" ++
  "  help       Print this message or the help of the given subcommand(s)\n"

/-! ### Commands -/

/-- The filter text: the argument, else the file, else standard
input. -/
def filterText (files : Files) (stdin : String) :
    (filter file : Option String) → Except Failure String
  | some text, _ => .ok text
  | none, some path => (files.text path).mapError (Failure.file path)
  | none, none => .ok stdin

/-- Whether the filter has to come from standard input. -/
def needsInput (invocation : Invocation) : Bool :=
  match invocation.command with
  | .compile none none _ => true
  | _ => false

/-- The files that carrying out a command may look at. -/
def paths (invocation : Invocation) : List String :=
  match invocation.command with
  | .operators => []
  | .compile _ file _ =>
    [invocation.options.config.getD Settings.usualFile] ++ file.toList

/-- Carries out a command. Only compiling needs the settings. -/
def perform (files : Files) (stdin : String) (invocation : Invocation) :
    Traced Failure String :=
  match invocation.command with
  | .operators => pure operatorTable
  | .compile filter file format => do
    let layout ←
      failingWith Failure.load (Settings.load invocation.options files)
    let compiler ← .ofExcept
      ((Compiler.ofLayout layout).mapError Failure.layout)
    let text ← .ofExcept (filterText files stdin filter file)
    let clause ← failingWith Failure.filter (compiler.buildText text)
    pure (printed format clause)

/-- The columns that a user gave, without blanks around them and
without empty ones. -/
def tidied (invocation : Invocation) : Invocation :=
  { invocation with
    options.specificColumns := invocation.options.specificColumns.map
      fun columns => (columns.map Text.trim).filter (· ≠ "") }

/-- The least important events that are logged; none if logging is
switched off. -/
def threshold (env : Environment) : Option Level :=
  match env.lookup "METAFILTER_LOG" <|> env.lookup "RUST_LOG" with
  | none => some .warn
  | some name =>
    if name.toList.map Char.toLower = ['o', 'f', 'f'] then none
    -- Anything else than a level leaves the errors.
    else some ((Level.parse? name).getD .error)

/-- The report on a command line that is not carried out. -/
def refused : Usage → Report
  | .version => { code := 0, stdout := versionLine }
  | .help => { code := 0, stdout := usageText }
  | _ => { code := 2, error := some usageText }

/-- The name of the file with environment variables. -/
def variablesFile : String := ".env"

/-- The environment of a run, with the variables of a file. -/
def fullEnvironment (env : Environment) (files : Files) : Environment :=
  match files variablesFile with
  | .ok content => CommandLine.Environment.extended env content.front
  | .error _ => env

/-- One run of the program. -/
def run (args : List String) (env : Environment) (files : Files)
    (stdin : String) : Report :=
  let env := fullEnvironment env files
  match CommandLine.parse env args with
  | .error usage => refused usage
  | .ok invocation =>
    let result := perform files stdin (tidied invocation)
    let events := Event.shown (threshold env) result.events
    match result.outcome with
    | .ok stdout => { code := 0, stdout, events }
    | .error failure =>
      { code := 1, events, error := some failure.message }

end FilterSql.Application
