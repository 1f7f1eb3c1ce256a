import FilterSql.Settings.Load

/-!
# `FilterSql.CommandLine.Basic`: what a user can ask for

The commands of the program, the options with a value, and the ways
in which a command line can be wrong.
-/

set_option autoImplicit false

namespace FilterSql.CommandLine

/-- How a compiled filter is printed. -/
inductive Format where
  | text
  | json
deriving DecidableEq

/-- The format with this name. -/
def Format.ofName? (s : String) : Option Format :=
  if s = "text" then some .text
  else if s = "json" then some .json
  else none

/-- What the program should do. -/
inductive Command where
  /-- Compile a filter: the argument, a file, or standard input. -/
  | compile (filter file : Option String) (format : Format)
  /-- List the operators. -/
  | operators

/-- A command line that has been understood. -/
structure Invocation where
  command : Command
  options : Settings.Options

/-- Why a command line is not carried out. The first two ask for
information; all others are mistakes. -/
inductive Usage where
  | help
  | version
  /-- Nothing was given at all. -/
  | nothingGiven
  /-- There are options but no command. -/
  | commandMissing
  | unknownCommand
  | unknownArgument
  /-- A value is missing, empty or not one of those allowed. -/
  | invalidValue
  /-- No backend has this name. -/
  | unknownBackend
  /-- Two arguments exclude each other. -/
  | conflict
  /-- A value for an option that has none. -/
  | unneededValue
deriving DecidableEq

/-- The options with a value. -/
inductive Opt where
  | config
  | backend
  | metadataColumn
  | specificColumn
  | file
  | format
deriving DecidableEq

namespace Opt

/-- The options that every command has. -/
def global : List Opt :=
  [config, backend, metadataColumn, specificColumn]

/-- The long name. -/
def long : Opt → String
  | config => "config"
  | backend => "backend"
  | metadataColumn => "metadata-column"
  | specificColumn => "specific-column"
  | file => "file"
  | format => "format"

/-- The short name, if there is one. -/
def short? : Opt → Option Char
  | config => some 'c'
  | backend => some 'b'
  | file => some 'f'
  | _ => none

/-- The environment variable that stands in for an option. -/
def environmentName? : Opt → Option String
  | config => some "METAFILTER_CONFIG"
  | backend => some "METAFILTER_BACKEND"
  | metadataColumn => some "METAFILTER_METADATA_COLUMN"
  | specificColumn => some "METAFILTER_SPECIFIC_COLUMNS"
  | _ => none

end Opt

/-- The part of a command line whose arguments are read: in front of
the command, or behind one. -/
inductive Scope where
  | top
  | compile
  | operators
deriving DecidableEq

namespace Scope

/-- The options that may stand here. -/
def options : Scope → List Opt
  | compile => Opt.file :: Opt.format :: Opt.global
  | _ => Opt.global

/-- The command with this name. -/
def ofCommand? (s : String) : Option Scope :=
  if s = "compile" then some compile
  else if s = "operators" then some operators
  else none

end Scope

end FilterSql.CommandLine
