import FilterSql.Text.Ranges

/-!
# `FilterSql.Text.Blank`: blank characters

Which characters count as blank around a filter text, a column name
or a query, and the two ways of cutting them off. The set is the
Unicode property White_Space; characters that merely look empty
(zero width space, byte order mark) do not belong to it.
-/

set_option autoImplicit false

namespace FilterSql.Text

/-- The code points with the property White_Space, as closed ranges
in ascending order. -/
def blankRanges : List (Nat × Nat) :=
  [(0x09, 0x0D), (0x20, 0x20), (0x85, 0x85), (0xA0, 0xA0),
   (0x1680, 0x1680), (0x2000, 0x200A), (0x2028, 0x2029),
   (0x202F, 0x202F), (0x205F, 0x205F), (0x3000, 0x3000)]

/-- Whether `c` is blank. -/
def isBlank (c : Char) : Bool :=
  inRanges blankRanges c.toNat

/-- A text of blank characters only; the empty text is one. -/
def allBlank (s : String) : Bool :=
  s.toList.all isBlank

/-- `s` without the blank characters at its end. -/
def trimEnd (s : String) : String :=
  String.ofList (s.toList.reverse.dropWhile isBlank).reverse

/-- `s` without the blank characters at either end. -/
def trim (s : String) : String :=
  trimEnd (String.ofList (s.toList.dropWhile isBlank))

end FilterSql.Text
