import FilterSql.Files
import FilterSql.Settings.File
import FilterSql.Traced

/-!
# `FilterSql.Settings.Load`: the layout to work with

The layout is put together entry by entry: what the user asked for
comes first, then the settings file, then the usual values. The file
is the one that the user names, or else the one in the current
directory, if there is one.

* `Settings.load`: the layout, or why there is none. A layout that is
  returned has passed its check.
-/

set_option autoImplicit false

namespace FilterSql.Settings

/-- What the user can ask for. -/
structure Options where
  config : Option String := none
  backend : Option Sql.Backend := none
  metadataColumn : Option String := none
  specificColumns : Option (List String) := none

/-- Why there is no layout. -/
inductive LoadError where
  | notFound (path : String)
  | unreadable (path : String) (fault : ReadFault)
  | malformed (path : String) (defect : Json.Defect)
  | invalid (error : Error)

/-- The wording of an error without its cause. -/
def LoadError.message : LoadError → String
  | notFound path => "Config file not found: " ++ path
  | unreadable path _ => "Failed to read config file: " ++ path
  | malformed path _ => "Failed to parse config file: " ++ path
  | invalid _ => "Invalid filter configuration"

/-- The error and its causes, outermost first. -/
def LoadError.chain (e : LoadError) : List String :=
  e.message :: match e with
    | notFound _ => []
    | unreadable _ fault => [fault.message]
    | malformed _ defect => [defect.message]
    | invalid error => error.chain

/-- The settings file that is looked for without being asked. -/
def usualFile : String := "metafilter.json"

/-- The settings file to read, if any. One that the user names has to
be there. -/
def chosenFile (options : Options) (files : Files) :
    Except LoadError (Option String) :=
  match options.config with
  | some path =>
    if files.has path then .ok (some path) else .error (.notFound path)
  | none => .ok (if files.has usualFile then some usualFile else none)

/-- The contents of a settings file. -/
def contentsOf (files : Files) (path : String) :
    Except LoadError Contents := do
  let text ← (files.text path).mapError (LoadError.unreadable path)
  (Contents.read text).mapError (LoadError.malformed path)

/-- The contents of the chosen file; without one they are empty. -/
def loadContents (files : Files) :
    Option String → Traced LoadError Contents
  | none => pure {}
  | some path => do
    .emit (.loadingFile path)
    let contents ← .ofExcept (contentsOf files path)
    if contents.unknown.isEmpty then pure contents
    else
      .emit (.unknownFields contents.unknown)
      pure contents

/-- The layout entry by entry: the user's wish, the section of the
file, the usual value. -/
def layered (options : Options) (s : Section) : Layout :=
  let usual := s.toLayout
  { backend := options.backend.getD usual.backend
    metadataColumn := options.metadataColumn.getD usual.metadataColumn
    specificColumns := options.specificColumns.getD usual.specificColumns }

/-- The layout to work with. -/
def load (options : Options) (files : Files) : Traced LoadError Layout := do
  .emit .loading
  let path ← .ofExcept (chosenFile options files)
  let contents ← loadContents files path
  let layout := layered options contents.layoutSection
  .ofExcept (layout.check.mapError LoadError.invalid)
  .emit (.loaded layout.backend layout.metadataColumn
    layout.specificColumns.length)
  pure layout

end FilterSql.Settings
