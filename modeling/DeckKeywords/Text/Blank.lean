/-
DeckKeywords/Text/Blank.lean

White space (the Unicode property White_Space) and trimming.
-/
import DeckKeywords.Text.CodeRanges

namespace DeckKeywords.Text

/-- The property White_Space. -/
def blankRanges : CodeRanges :=
  [(0x9, 0xD), (0x20, 0x20), (0x85, 0x85), (0xA0, 0xA0), (0x1680, 0x1680), (0x2000, 0x200A),
   (0x2028, 0x2029), (0x202F, 0x202F), (0x205F, 0x205F), (0x3000, 0x3000)]

/-- Whether the character `c` is white space. -/
def isBlank (c : Char) : Bool := blankRanges.has c

/-- The list `cs` without the white space at its two ends. -/
def trimBlanks (cs : List Char) : List Char :=
  ((cs.dropWhile isBlank).reverse.dropWhile isBlank).reverse

/-- The text `s` without the white space at its two ends. -/
def trim (s : String) : String := String.ofList (trimBlanks s.toList)

/-- Whether the text `s` holds nothing but white space. -/
def isBlankText (s : String) : Bool := s.toList.all isBlank

end DeckKeywords.Text
