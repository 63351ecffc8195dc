/-
DeckKeywords/Text/RegularExpression/Atom.lean

The smallest parts of regular expressions: characters, escapes, and what they
stand for under the switches that are on.

Braces that close are not known here, so nothing that needs one is right:
counts of repetitions, numbers and properties of characters between braces.
-/
import DeckKeywords.Text.Alphanumeric
import DeckKeywords.Text.Blank
import DeckKeywords.Text.Positional

namespace DeckKeywords.Text.RegularExpression

/-- Switches: whether blank space is passed over, whether characters are those of every script and
not bytes, and whether upper and lower case are the same. -/
structure Switches where
  spaced : Bool
  universal : Bool
  caseless : Bool
  deriving DecidableEq, Repr

/-- The switches that an expression starts with. -/
def Switches.initial : Switches := ⟨false, true, false⟩

/-- Passes over blank space and comments, which end with their line; the flag says whether a comment
is going on. -/
def skipBlanks : Bool → List Char → List Char
  | _, [] => []
  | true, c :: cs => skipBlanks (c ≠ '\n') cs
  | false, c :: cs =>
    if c = '#' then skipBlanks true cs
    else if isBlank c then skipBlanks false cs
    else c :: cs

/-- Passes over blank space and comments if they do not count. -/
def Switches.skip (w : Switches) (cs : List Char) : List Char :=
  if w.spaced then skipBlanks false cs else cs

/-- What one character or one escape stands for: a character, given as a byte or not; a shorthand
for a class of characters; a property; any character; or a place, at a word's edge or another
one. -/
inductive Atom where
  | character (c : Char) (asByte : Bool)
  | shorthand (negated : Bool)
  | property
  | anyCharacter
  | place (wordEdge : Bool)
  deriving DecidableEq, Repr

namespace Atom

/-- Whether the atom may stand by itself.  What could match half a character is not right, and the
edge of a word has to be that of an ASCII word. -/
def stands (w : Switches) : Atom → Bool
  | character c asByte => w.universal || c.toNat < 0x80 || !(asByte || w.caseless)
  | shorthand negated => w.universal || !negated
  | property => w.universal
  | anyCharacter => w.universal
  | place wordEdge => !(wordEdge && w.universal)

/-- Whether the atom may stand in a class. -/
def standsInClass (w : Switches) : Atom → Bool
  | character c _ => w.universal || c.toNat < 0x80
  | shorthand negated => w.universal || !negated
  | property => w.universal
  | anyCharacter => false
  | place _ => false

end Atom

/-! ### Escapes -/

/-- So many hexadecimal digits, and what follows them. -/
def readHex (w : Switches) : Nat → List Char → Option (List Nat × List Char)
  | 0, cs => some ([], cs)
  | more + 1, cs => do
    match w.skip cs with
    | [] => none
    | c :: cs => do
      let d ← hexValue? c
      let (ds, rest) ← readHex w more cs
      return (d :: ds, rest)

/-- A character by its number in so many hexadecimal digits. -/
def readNumbered (w : Switches) (count : Nat) (asByte : Bool) (cs : List Char) :
    Option (Atom × List Char) := do
  let (ds, rest) ← readHex w count cs
  let n := ofDigits 16 ds
  if n.isValidChar then some (.character (Char.ofNat n) asByte, w.skip rest) else none

/-- A property by the letter of its general category. -/
def readProperty (w : Switches) (cs : List Char) : Option (Atom × List Char) :=
  match w.skip cs with
  | [] => none
  | c :: cs =>
    if ['c', 'l', 'm', 'n', 'p', 's', 'z'].contains c.toLower then some (.property, w.skip cs)
    else none

/-- Whether a backslash takes its meaning from the character, or has none there: everything in ASCII
but letters, digits and angles. -/
def isEscapable (c : Char) : Bool := c.toNat < 0x80 && !c.isAlphanum && c ≠ '<' && c ≠ '>'

/-- The letters behind a backslash that stand for control characters. -/
def controls : List (Char × Char) :=
  [('a', '\x07'), ('f', '\x0c'), ('t', '\t'), ('n', '\n'), ('r', '\r'), ('v', '\x0b')]

/-- An escape, behind its backslash. -/
def readEscape (w : Switches) : List Char → Option (Atom × List Char)
  | [] => none
  | 'x' :: cs => readNumbered w 2 true cs
  | 'u' :: cs => readNumbered w 4 false cs
  | 'U' :: cs => readNumbered w 8 false cs
  | c :: cs =>
    if c = 'p' || c = 'P' then readProperty w cs
    else if ['d', 's', 'w'].contains c then some (.shorthand false, cs)
    else if ['D', 'S', 'W'].contains c then some (.shorthand true, cs)
    else if ['A', 'z'].contains c then some (.place false, cs)
    else if ['b', 'B', '<', '>'].contains c then some (.place true, cs)
    else
      match controls.lookup c with
      | some control => some (.character control false, cs)
      | none => if isEscapable c then some (.character c false, cs) else none

end DeckKeywords.Text.RegularExpression
