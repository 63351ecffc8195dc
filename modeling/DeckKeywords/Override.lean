/-
DeckKeywords/Override.lean

Overrides: what a host has configured for the version and the language, by
key.  The word `Auto` stands for "find out", and so does a blank text.
-/
import DeckKeywords.Text.Blank
import DeckKeywords.Text.Case

namespace DeckKeywords

/-- The key of the version. -/
def versionKey : String := "sofistik.version"

/-- The key of the language. -/
def languageKey : String := "sofistik.language"

/-- The word for "find out, do not override". -/
def auto : String := "Auto"

/-- Whether `s` is the word `auto`; white space around it and the case do not matter. -/
def isAuto (s : String) : Bool := Text.lowerAscii (Text.trim s) == Text.lowerAscii auto

/-- The configured text for each key, if any. -/
abbrev Overrides := String → Option String

namespace Overrides

/-- Nothing is configured. -/
def none : Overrides := fun _ => .none

/-- What `pairs` of keys and texts configure. -/
def ofPairs (pairs : List (String × String)) : Overrides := fun key => pairs.lookup key

/-- The text that takes effect: trimmed, and neither blank nor `Auto`. -/
def effective? (o : Overrides) (key : String) : Option String :=
  match o key with
  | .none => .none
  | some raw =>
    let s := Text.trim raw
    if s.isEmpty || isAuto s then .none else some s

end Overrides

end DeckKeywords
