/-
DeckKeywords/Json/Printer.lean

Writing JSON values: on one line without spaces, or spread over lines with two
spaces per level.
-/
import DeckKeywords.Json.Value

namespace DeckKeywords.Json

/-- A digit in base sixteen, in lower case. -/
def hexChar (n : Nat) : Char := Nat.digitChar n

/-- One character inside a string.  Quotes, backslashes and controls are escaped, and nothing
else. -/
def printedChar (c : Char) : List Char :=
  match c with
  | '"' => ['\\', '"']
  | '\\' => ['\\', '\\']
  | '\x08' => ['\\', 'b']
  | '\x0c' => ['\\', 'f']
  | '\n' => ['\\', 'n']
  | '\r' => ['\\', 'r']
  | '\t' => ['\\', 't']
  | c =>
    if c.toNat < 0x20 then ['\\', 'u', '0', '0', hexChar (c.toNat / 16), hexChar (c.toNat % 16)]
    else [c]

/-- A string between its quotes. -/
def printedText (s : String) : List Char := '"' :: s.toList.flatMap printedChar ++ ['"']

/-- A number. -/
def Number.printed : Number → List Char
  | .integer i => (toString i).toList
  | .real n => n.realText.toList

/-- Parts with a separator between them. -/
def separated (sep : List Char) : List (List Char) → List Char
  | [] => []
  | [p] => p
  | p :: q :: ps => p ++ sep ++ separated sep (q :: ps)

namespace Value

mutual

/-- The value on one line. -/
def compactChars : Value → List Char
  | null => ['n', 'u', 'l', 'l']
  | bool true => ['t', 'r', 'u', 'e']
  | bool false => ['f', 'a', 'l', 's', 'e']
  | number n => n.printed
  | text s => printedText s
  | array items => '[' :: separated [','] (compactItems items) ++ [']']
  | object members => '\x7b' :: separated [','] (compactMembers members) ++ ['\x7d']

/-- The items of an array on one line each. -/
def compactItems : List Value → List (List Char)
  | [] => []
  | v :: vs => compactChars v :: compactItems vs

/-- The members of an object on one line each. -/
def compactMembers : List (String × Value) → List (List Char)
  | [] => []
  | (k, v) :: ms => (printedText k ++ ':' :: compactChars v) :: compactMembers ms

end

/-- The value on one line, as a text. -/
def compact (v : Value) : String := String.ofList v.compactChars

/-- A line feed and the space before a line at the given level. -/
def newline (level : Nat) : List Char := '\n' :: List.replicate (2 * level) ' '

/-- Parts on lines of their own between two brackets; nothing between them when there is no part. -/
def block (opening closing : Char) (level : Nat) (parts : List (List Char)) : List Char :=
  if parts.isEmpty then [opening, closing]
  else
    opening :: newline (level + 1) ++ separated (',' :: newline (level + 1)) parts
      ++ newline level ++ [closing]

mutual

/-- The value over lines, standing at the given level. -/
def prettyChars (level : Nat) : Value → List Char
  | array items => block '[' ']' level (prettyItems (level + 1) items)
  | object members => block '\x7b' '\x7d' level (prettyMembers (level + 1) members)
  | null => ['n', 'u', 'l', 'l']
  | bool true => ['t', 'r', 'u', 'e']
  | bool false => ['f', 'a', 'l', 's', 'e']
  | number n => n.printed
  | text s => printedText s

/-- The items of an array. -/
def prettyItems (level : Nat) : List Value → List (List Char)
  | [] => []
  | v :: vs => prettyChars level v :: prettyItems level vs

/-- The members of an object. -/
def prettyMembers (level : Nat) : List (String × Value) → List (List Char)
  | [] => []
  | (k, v) :: ms =>
    (printedText k ++ ':' :: ' ' :: prettyChars level v) :: prettyMembers level ms

end

/-- The value over lines, as a text. -/
def pretty (v : Value) : String := String.ofList (v.prettyChars 0)

end Value

end DeckKeywords.Json
