import FilterSql.Settings.Section

/-!
# `FilterSql.Settings.File`: settings files

A settings file is one JSON object. Its entry `filter` is a section;
all other entries mean nothing, but their keys are remembered so that
a slip of the pen can be pointed out.
-/

set_option autoImplicit false

namespace FilterSql.Settings

open Json (Failure Scan)

/-- The contents of a settings file. -/
structure Contents where
  /-- The entry `filter`: `none` if there is none, `some none` if it
  is `null`. -/
  filter : Option (Option Section) := none
  /-- The other keys in the order of their first appearance. -/
  unknown : List String := []

namespace Contents

/-- The section, an absent one being empty. -/
def layoutSection (contents : Contents) : Section :=
  contents.filter.join.getD {}

/-- A key that means nothing. -/
def addUnknown (contents : Contents) (key : String) : Contents :=
  if contents.unknown.contains key then contents
  else { contents with unknown := contents.unknown ++ [key] }

/-- The brackets that may be open inside a settings file. -/
def innerNesting : Nat := Json.maxNesting - 1

/-- Takes one entry in. -/
def member (contents : Contents) (key : String) : Scan Contents := fun cs =>
  if key = "filter" then
    if contents.filter.isSome then
      .error (Scan.repeatedKey key cs)
    else do
      let rest ← Scan.colon cs
      let (s, rest) ← Scan.optional (Section.scan .inFile) rest
      .ok ({ contents with filter := some s }, rest)
  else do
    let rest ← Scan.colon cs
    let (_, rest) ← Scan.value innerNesting rest
    .ok (contents.addUnknown key, rest)

/-- The contents at the front of a text. -/
def scan : Scan Contents := fun cs =>
  match Scan.skipSpaces cs with
  | '\x7b' :: rest => Scan.entries member {} rest
  | cs => .error (Scan.mismatch "struct FileConfig" cs)

/-- A whole text as the contents of a settings file. -/
def read (text : String) : Except Json.Defect Contents :=
  let cs := text.toList
  let result : Except Failure Contents := do
    let (contents, rest) ← scan cs
    Scan.ending rest
    .ok contents
  result.mapError (·.defect cs)

end Contents

end FilterSql.Settings
