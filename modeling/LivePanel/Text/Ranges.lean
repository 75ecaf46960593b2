/-!
# Classes of characters

A class of characters as a table of ranges of code points, in order. The tables of
Unicode properties are such classes.
-/

namespace LivePanel.Text

/-- A class of characters: the first and the last code point of each of its ranges. -/
abbrev Ranges := List (Nat × Nat)

/-- Whether `c` is in the class. -/
def Ranges.contains (rs : Ranges) (c : Char) : Bool :=
  rs.any fun r => r.1 ≤ c.toNat && c.toNat ≤ r.2

end LivePanel.Text
