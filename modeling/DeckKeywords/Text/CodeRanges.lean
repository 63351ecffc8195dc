/-
DeckKeywords/Text/CodeRanges.lean

Sets of characters given as closed ranges of code points.  Every Unicode
property that the library needs is one such table, each in a module named for
the property.  Words and digits are those of Unicode 16; all other tables are
of Unicode 17.
-/
namespace DeckKeywords.Text

/-- Closed ranges of code points, ascending and apart. -/
abbrev CodeRanges := List (Nat × Nat)

/-- Whether the character `c` lies in one of the `ranges`. -/
def CodeRanges.has (ranges : CodeRanges) (c : Char) : Bool :=
  ranges.any fun r => r.1 ≤ c.toNat && c.toNat ≤ r.2

end DeckKeywords.Text
