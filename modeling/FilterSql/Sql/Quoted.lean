/-!
# `FilterSql.Sql.Quoted`: names, strings and placeholders in SQL text

A name is put between double quotes and a string between single ones.
Inside, the quote itself is written twice and everything else stands
for itself, so no content can end the quotation early.

* `Sql.quotedName`: a name with its quotes.
* `Sql.escapedString`: the inside of a string.
* `Sql.placeholders`: how many parameters a text asks for.
-/

set_option autoImplicit false

namespace FilterSql.Sql

/-- Writes every `quote` twice. -/
def doubled (quote : Char) : List Char → List Char
  | [] => []
  | c :: cs =>
    if c = quote then c :: c :: doubled quote cs else c :: doubled quote cs

/-- A name between double quotes. -/
def quotedName (name : String) : String :=
  String.ofList ('"' :: doubled '"' name.toList ++ ['"'])

/-- The inside of a string between single quotes. -/
def escapedString (s : String) : String :=
  String.ofList (doubled '\x27' s.toList)

/-- The number of question marks in a text. They are counted wherever
they stand, so a name that holds one would spoil the count. -/
def placeholders (sql : String) : Nat :=
  sql.toList.count '?'

end FilterSql.Sql
