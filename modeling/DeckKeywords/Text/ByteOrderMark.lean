/-
DeckKeywords/Text/ByteOrderMark.lean

The mark that some editors put before a text.  It is not part of the text.
-/
namespace DeckKeywords.Text

/-- The byte-order mark. -/
def byteOrderMark : Char := '\uFEFF'

/-- The text behind a byte-order mark, or all of it if there is no mark.  Only one mark counts. -/
def withoutMark : List Char → List Char
  | [] => []
  | c :: cs => if c = byteOrderMark then cs else c :: cs

end DeckKeywords.Text
