/-
DeckKeywords/Sidecar.lean

The version in a sidecar definition file: the first place at the start of a
line that reads like `set SOF_VERSION = "2022"`, where `set` and the quote may
be missing.  White space between the parts may be any, line feeds included, so
the parts need not stand on one line.
-/
import DeckKeywords.Text.Blank
import DeckKeywords.Text.Digit
import DeckKeywords.Text.Matcher

namespace DeckKeywords.Sidecar

open Text Matcher

/-- The word `set` and white space. -/
def setCommand : Matcher Unit := do
  let _ ← word "set"
  skipSome isBlank

/-- An assignment: the digits of its version. -/
def pattern : Matcher (List Char) := do
  skipMany isBlank
  let _ ← Matcher.optional setCommand
  let _ ← word "sof_version"
  skipMany isBlank
  let _ ← char (· == '=')
  skipMany isBlank
  let _ ← Matcher.optional (char (· == '"'))
  let version ← oneTo isDigit 4
  boundary
  return version

/-- The starts of lines: the start of the text, and every place behind a line feed. -/
def lineStarts (before : Option Char) : List Char → List Cursor
  | [] => if before.all (· == '\n') then [⟨before, []⟩] else []
  | c :: cs =>
    if before.all (· == '\n') then ⟨before, c :: cs⟩ :: lineStarts (some c) cs
    else lineStarts (some c) cs

/-- The version in a sidecar file with that `text`. -/
def version? (text : String) : Option String :=
  ((lineStarts none text.toList).findSome? pattern.first?).map String.ofList

end DeckKeywords.Sidecar
