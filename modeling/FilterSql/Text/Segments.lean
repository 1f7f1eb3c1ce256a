/-!
# `FilterSql.Text.Segments`: joining, splitting and padding

Small operations on whole texts: putting a separator between parts,
cutting a text at every separator, and filling a table cell.
-/

set_option autoImplicit false

namespace FilterSql.Text

/-- The parts in order with `separator` between neighbours. -/
def joined (separator : String) : List String → String
  | [] => ""
  | [part] => part
  | part :: parts => part ++ separator ++ joined separator parts

/-- The runs of `cs` between occurrences of `separator`. There is one
run more than there are separators, so no text gives no run. -/
def runs (separator : Char) : List Char → List (List Char)
  | [] => [[]]
  | c :: cs =>
    if c = separator then [] :: runs separator cs
    else match runs separator cs with
      | [] => [[c]]
      | run :: rest => (c :: run) :: rest

/-- `s` cut at every `separator`. -/
def segments (separator : Char) (s : String) : List String :=
  (runs separator s.toList).map String.ofList

/-- `s` filled with spaces on the right to `width` characters; a
longer text stays as it is. -/
def padRight (width : Nat) (s : String) : String :=
  s ++ String.ofList (List.replicate (width - s.length) ' ')

end FilterSql.Text
