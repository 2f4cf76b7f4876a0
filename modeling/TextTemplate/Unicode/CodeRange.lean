/-!
# Ranges of code points

Properties of characters that a standard fixes by enumeration are kept as tables of ranges. A range
is a pair of code points, both of which belong to it.

## Main definitions

* `CodeRange.covers`: whether some range of a table holds a character.
-/

namespace TextTemplate

/-- A range of code points, given by its first and its last member. -/
abbrev CodeRange := Nat × Nat

/-- Whether some range of the table holds the character. -/
def CodeRange.covers (table : List CodeRange) (c : Char) : Bool :=
  table.any fun range => range.1 ≤ c.toNat && c.toNat ≤ range.2

end TextTemplate
