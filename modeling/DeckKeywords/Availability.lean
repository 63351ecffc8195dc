/-
DeckKeywords/Availability.lean

Availability tags: in which versions of its table a command exists.

  * a version alone stands for itself and everything after it,
  * versions between commas stand for exactly themselves,
  * two versions around a dash stand for everything from one to the other.

A blank tag says nothing, and a command without a tag exists in every version,
in unlisted ones too.
-/
import DeckKeywords.Text.Blank
import DeckKeywords.Text.Split
import DeckKeywords.VersionTable

namespace DeckKeywords

/-- In which versions a command exists. -/
inductive Availability where
  | since (first : String)
  | only (versions : List String)
  | range (first last : String)
  deriving DecidableEq, Repr

namespace Availability

/-- The characters `cs` as a text without the white space around it. -/
def trimmed (cs : List Char) : String := String.ofList (Text.trimBlanks cs)

/-- The meaning of a `tag`.  A comma decides before a dash, and the first dash before later ones. -/
def parse (tag : String) : Option Availability :=
  let cs := Text.trimBlanks tag.toList
  if cs.isEmpty then none
  else if cs.contains ',' then some (only ((Text.splitAll ',' cs).map trimmed))
  else
    match Text.splitFirst '-' cs with
    | some (first, last) => some (range (trimmed first) (trimmed last))
    | none => some (since (String.ofList cs))

/-- The tag that is written for an availability. -/
def tag : Availability → String
  | since first => first
  | only versions => String.intercalate "," versions
  | range first last => first ++ "-" ++ last

/-- Whether `a` covers the version `target`, by the order of the `table`.  An unlisted version, as
target or as bound, stands before all others. -/
def covers (a : Availability) (target : String) (table : VersionTable) : Bool :=
  match a with
  | only versions => versions.contains target
  | range first last =>
    table.position first ≤ table.position target && table.position target ≤ table.position last
  | since first => table.position first ≤ table.position target

end Availability

/-- Whether a command with the tag `a`, if any, exists in the version `target`. -/
def isAvailable (a : Option Availability) (target : String) (table : VersionTable) : Bool :=
  match a with
  | none => true
  | some a => a.covers target table

end DeckKeywords
