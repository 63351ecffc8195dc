/-
DeckKeywords/Marker.lean

The marker that a deck may carry on its first line, such as
`@ SOFiSTiK 2024-1 DE`: an at-sign, the product's name, one to four digits,
optionally a dash with one or two more digits, and optionally white space with
two letters.  The whole has to end at the end of a word.

The optional parts are there if that lets the marker end well; a longer name
than two letters, or too many digits after the dash, is simply not part of it.
-/
import DeckKeywords.Language
import DeckKeywords.Text.Digit
import DeckKeywords.Text.Matcher

namespace DeckKeywords

/-- What a marker says: a version, and the language if its two letters name one. -/
structure Marker where
  version : String
  language : Option Language
  deriving DecidableEq, Repr

namespace Marker

open Text Matcher

/-- The digits after a dash. -/
def servicePack : Matcher (List Char) := do
  let _ ← char (· == '-')
  oneTo isDigit 2

/-- The two letters after white space. -/
def languageCode : Matcher (List Char) := do
  skipSome isBlank
  each [isFoldedLetter, isFoldedLetter]

/-- A marker: the digits of its version, and its two letters if it has them. -/
def pattern : Matcher (List Char × Option (List Char)) := do
  skipMany isBlank
  let _ ← char (· == '@')
  skipMany isBlank
  let _ ← word "sofistik"
  skipMany isBlank
  let version ← oneTo isDigit 4
  let _ ← Matcher.optional servicePack
  let code ← Matcher.optional languageCode
  boundary
  return (version, code)

/-- The marker of a `line`. -/
def ofLine? (line : String) : Option Marker :=
  (pattern.first? (Cursor.start line.toList)).map fun (version, code) =>
    ⟨String.ofList version, code.bind fun cs => Language.ofName? (String.ofList cs)⟩

end Marker

end DeckKeywords
