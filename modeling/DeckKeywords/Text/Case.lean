/-
DeckKeywords/Text/Case.lean

Lower-casing of texts.  Every character is mapped by itself but one: a capital
sigma becomes `ς` where it ends a word and `σ` elsewhere.  It ends a word when,
case-ignorable characters aside, a cased character stands before it and none
stands after it.
-/
import DeckKeywords.Text.Case.Lower
import DeckKeywords.Text.Case.Upper
import DeckKeywords.Text.Case.Cased

namespace DeckKeywords.Text

/-- Lower case of the second list, which follows the first one (kept backwards). -/
def lowerAfter : List Char → List Char → List Char
  | _, [] => []
  | before, c :: rest =>
    let image :=
      if c = 'Σ' then
        if meetsCased before && !meetsCased rest then ['ς'] else ['σ']
      else lowerChar c
    image ++ lowerAfter (c :: before) rest

/-- The lower-case form of a text `s`. -/
def lower (s : String) : String := String.ofList (lowerAfter [] s.toList)

/-- The text `s` with its ASCII letters in lower case, all else unchanged. -/
def lowerAscii (s : String) : String := String.ofList (s.toList.map Char.toLower)

end DeckKeywords.Text
