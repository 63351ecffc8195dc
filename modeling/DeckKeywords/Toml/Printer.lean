/-
DeckKeywords/Toml/Printer.lean

Writing texts as TOML strings.  Of the four kinds of quotes the first one is
taken that needs no escape: double ones, single ones, three double ones, three
single ones.  A text that none of them can hold as it is stands, with escapes,
between double quotes; three of them if it has line feeds.  Between three
quotes a text with line feeds starts on a line of its own.
-/
import DeckKeywords.Toml.Quoted

namespace DeckKeywords.Toml

/-- The length of the longest run of a character. -/
def longestRun (c : Char) (cs : List Char) : Nat :=
  (cs.foldl (fun (here, most) d =>
    let here := if d = c then here + 1 else 0
    (here, max here most)) (0, 0)).2

/-- Whether a character has to be escaped wherever it stands. -/
def isControl (c : Char) : Bool := !isPlain c && c != '\n'

/-! ### Escaping -/

/-- A number below 256 in four hexadecimal digits, in upper case. -/
def fourDigits (n : Nat) : List Char :=
  ['0', '0', (Nat.digitChar (n / 16)).toUpper, (Nat.digitChar (n % 16)).toUpper]

/-- The escape of a character, if it has one.  Line feeds may be left as they are. -/
def escape? (overLines : Bool) (c : Char) : Option (List Char) :=
  match c with
  | '\x08' => some ['\\', 'b']
  | '\t' => some ['\\', 't']
  | '\n' => if overLines then none else some ['\\', 'n']
  | '\x0c' => some ['\\', 'f']
  | '\r' => some ['\\', 'r']
  | '\\' => some ['\\', '\\']
  | c => if isControl c then some ('\\' :: 'u' :: fourDigits c.toNat) else none

/-- The characters between double quotes.  So many double quotes in a row stay as they are, and the
next one is escaped; how many there were last is counted. -/
def escaped (overLines : Bool) (allowed : Nat) : Nat → List Char → List Char
  | _, [] => []
  | row, c :: cs =>
    if c = '"' then
      if row < allowed then c :: escaped overLines allowed (row + 1) cs
      else '\\' :: c :: escaped overLines allowed 0 cs
    else
      match escape? overLines c with
      | some e => e ++ escaped overLines allowed 0 cs
      | none => c :: escaped overLines allowed 0 cs

/-! ### Quotes -/

/-- Between double quotes. -/
def inDouble (cs : List Char) : List Char := '"' :: escaped false 0 0 cs ++ ['"']

/-- Between single quotes. -/
def inSingle (cs : List Char) : List Char := '\'' :: cs ++ ['\'']

/-- What stands between three opening quotes and a text: a line feed, if the text has one too. -/
def opening (cs : List Char) : List Char := if cs.contains '\n' then ['\n'] else []

/-- Between three double quotes. -/
def inThreeDouble (cs : List Char) : List Char :=
  ['"', '"', '"'] ++ opening cs ++ escaped true 2 0 cs ++ ['"', '"', '"']

/-- Between three single quotes. -/
def inThreeSingle (cs : List Char) : List Char :=
  ['\'', '\'', '\''] ++ opening cs ++ cs ++ ['\'', '\'', '\'']

/-- A text as a string. -/
def printedText (s : String) : String :=
  let cs := s.toList
  let controls := cs.any isControl
  let backslash := cs.contains '\\'
  let lines := cs.contains '\n'
  let single := longestRun '\'' cs
  let double := longestRun '"' cs
  String.ofList <|
    if !controls && !backslash && double = 0 && !lines then inDouble cs
    else if !controls && single = 0 && !lines then inSingle cs
    else if !controls && !backslash && double ≤ 2 then inThreeDouble cs
    else if !controls && single ≤ 2 then inThreeSingle cs
    else if lines then inThreeDouble cs
    else inDouble cs

end DeckKeywords.Toml
