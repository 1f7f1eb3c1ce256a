import FilterSql.Application

/-!
# `FilterSql.Main`: the program

Collects what a run can see, lets `Application.run` work out the
rest, and prints it. Only the files that the command line leads to
are opened, and standard input is read only if the filter comes from
there.
-/

set_option autoImplicit false

open FilterSql

/-- The environment variables that mean something to the program. -/
def FilterSql.knownVariables : List String :=
  CommandLine.Opt.global.filterMap CommandLine.Opt.environmentName? ++
    ["METAFILTER_LOG", "RUST_LOG"]

/-- The environment variables that are set. -/
def FilterSql.readEnvironment : IO CommandLine.Environment :=
  knownVariables.filterMapM fun name => do
    let value ← IO.getEnv name
    return value.map fun value => (name, value)

/-- What reading a path gives. -/
def FilterSql.readPath (path : String) :
    IO (Except ReadFault FileContent) := do
  try
    return .ok (.ofBytes (← IO.FS.readBinFile path))
  catch
    | .noFileOrDirectory .. => return .error .missing
    -- Only a path that cannot be opened is named in the error.
    | .inappropriateType (some _) .. => return .error .notADirectory
    | .invalidArgument .. => return .error .nameTooLong
    | _ => return .error .directory

/-- What reading several paths gives. -/
def FilterSql.readPaths (paths : List String) :
    IO (List (String × Except ReadFault FileContent)) :=
  paths.mapM fun path => return (path, ← readPath path)

def main (args : List String) : IO UInt32 := do
  let env ← readEnvironment
  let bindings ← readPaths [Application.variablesFile]
  let full := Application.fullEnvironment env (.ofReads bindings)
  let invocation := CommandLine.parse full args
  let paths := match invocation with
    | .ok invocation => Application.paths invocation
    | .error _ => []
  let files ← readPaths paths
  let stdin ←
    if (invocation.toOption.map Application.needsInput).getD false then
      (← IO.getStdin).readToEnd
    else pure ""
  let report :=
    Application.run args env (.ofReads (bindings ++ files)) stdin
  for event in report.events do
    IO.eprintln event.line
  IO.print report.stdout
  if let some message := report.error then
    IO.eprintln ("\n" ++ message ++ "\n")
  return report.code.toUInt32
