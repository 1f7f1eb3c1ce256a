import FilterSql.Filter.OfJson
import FilterSql.Json.Reader
import FilterSql.Text.Blank

/-!
# `FilterSql.Filter.OfText`: filters from JSON text

Two ways to read a filter out of a text. `Filter.ofText` is for users
who may give none at all: blank text, `null` and an object without
entries all mean that there is no filter, and very long texts are
refused unread. `Filter.ofDocument` takes the text for a document
that is one filter.
-/

set_option autoImplicit false

namespace FilterSql.Filter

/-- The longest filter text, in bytes. -/
def maxBytes : Nat := 65536

/-- The filter that a text states, if it states any. -/
def ofText (text : String) : Except Error (Option Filter) :=
  if maxBytes < text.utf8ByteSize then
    .error (.tooLarge maxBytes text.utf8ByteSize)
  else if Text.allBlank text then .ok none
  else
    match Json.read text with
    | .error defect => .error (.invalidJson defect)
    | .ok .null => .ok none
    | .ok v => do
      let filter ← ofJson v
      .ok (if filter.isEmpty then none else some filter)

/-- What can be wrong with a document that should be a filter. -/
inductive DocumentFault where
  /-- It is not a JSON text. -/
  | text (defect : Json.Defect)
  /-- Its value is not a filter. -/
  | filter (error : Error)

/-- The wording of a fault. What is wrong with the filter has no place
of its own, so a place that its wording ends in counts as one. -/
def DocumentFault.message : DocumentFault → String
  | text defect => defect.message
  | filter error => Json.withPlace error.message

/-- The filter that a document is. A fault of the filter is noticed
before anything that follows the value is looked at. -/
def ofDocument (text : String) : Except DocumentFault Filter :=
  let cs := text.toList
  match Json.Scan.value Json.maxNesting cs with
  | .error failure => .error (.text (failure.defect cs))
  | .ok (v, rest) =>
    match ofJson v with
    | .error e => .error (.filter e)
    | .ok filter =>
      match Json.Scan.ending rest with
      | .error failure => .error (.text (failure.defect cs))
      | .ok () => .ok filter

end FilterSql.Filter
