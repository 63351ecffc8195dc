/-
DeckKeywords/Text/Split.lean

Cutting texts apart at a character, and looking for one text inside another.
-/
namespace DeckKeywords.Text

/-- The parts between the separators `sep`, in order; always at least one. -/
def splitAll (sep : Char) : List Char → List (List Char)
  | [] => [[]]
  | c :: cs =>
    if c = sep then [] :: splitAll sep cs
    else
      match splitAll sep cs with
      | part :: parts => (c :: part) :: parts
      | [] => [[c]]

/-- What stands before the first separator `sep` and what stands after it. -/
def splitFirst (sep : Char) : List Char → Option (List Char × List Char)
  | [] => none
  | c :: cs =>
    if c = sep then some ([], cs)
    else (splitFirst sep cs).map fun (before, after) => (c :: before, after)

/-- Whether `part` occurs as an unbroken part of the second list. -/
def occursIn (part : List Char) : List Char → Bool
  | [] => part.isEmpty
  | c :: cs => part.isPrefixOf (c :: cs) || occursIn part cs

/-- Whether the text `part` occurs inside `whole`. -/
def isPartOf (part whole : String) : Bool := occursIn part.toList whole.toList

/-- The first line of `cs`, without its line feed and without a carriage return directly before
that.  A text without a line feed is its own first line, a carriage return at its end included. -/
def firstLine (cs : List Char) : List Char :=
  match splitFirst '\n' cs with
  | none => cs
  | some (line, _) => if line.getLast? = some '\r' then line.dropLast else line

end DeckKeywords.Text
