/-
DeckKeywords/Toml/Quoted.lean

Strings, and what may stand in them.  Between double quotes a backslash starts
an escape, between single quotes it is like any other character.  Behind three
quotes a string may run over lines; it ends with the last three quotes of up
to five in a row, and the first two of those five belong to it.

Each reader starts behind the opening quotes and gives back the characters of
the string and what follows its closing quotes.
-/
import DeckKeywords.Text.Positional

namespace DeckKeywords.Toml

/-- Whether a character may stand in a comment or, as it is, in a string. -/
def isPlain (c : Char) : Bool := c == '\t' || (0x20 ≤ c.toNat && c.toNat ≠ 0x7F)

/-- The space between words of one line. -/
def isSpace (c : Char) : Bool := c == ' ' || c == '\t'

/-- Puts a character before a string that is already read. -/
def consChar (c : Char) (t : List Char × List Char) : List Char × List Char := (c :: t.1, t.2)

/-! ### Escapes -/

/-- The character that a letter stands for behind a backslash. -/
def escaped? : Char → Option Char
  | 'b' => some '\x08'
  | 't' => some '\t'
  | 'n' => some '\n'
  | 'f' => some '\x0c'
  | 'r' => some '\r'
  | 'e' => some '\x1b'
  | '"' => some '"'
  | '\\' => some '\\'
  | _ => none

/-- The number of hexadecimal digits that a letter asks for behind a backslash. -/
def hexCount? : Char → Option Nat
  | 'x' => some 2
  | 'u' => some 4
  | 'U' => some 8
  | _ => none

/-- The character with a given code point, unless that is half a surrogate pair or too large. -/
def charOf? (n : Nat) : Option Char := if n.isValidChar then some (Char.ofNat n) else none

/-- The character that an escape stands for; hexadecimal digits are given behind its letter. -/
def hexChar? (count : Nat) (cs : List Char) : Option Char := do
  let front := cs.take count
  if front.length < count then none
  else
    let ds ← front.mapM Text.hexValue?
    charOf? (Text.ofDigits 16 ds)

/-! ### Strings on one line -/

/-- A string between double quotes.  The number says how many characters to pass over: those of an
escape that has been read. -/
def readBasic : Nat → List Char → Option (List Char × List Char)
  | _, [] => none
  | pass + 1, _ :: cs => readBasic pass cs
  | 0, '"' :: cs => some ([], cs)
  | 0, '\\' :: cs =>
    match cs with
    | [] => none
    | e :: hex =>
      match escaped? e, hexCount? e with
      | some c, _ => consChar c <$> readBasic 1 cs
      | none, some count => do
        let c ← hexChar? count hex
        consChar c <$> readBasic (count + 1) cs
      | none, none => none
  | 0, c :: cs => if isPlain c then consChar c <$> readBasic 0 cs else none

/-- A string between single quotes. -/
def readLiteral : List Char → Option (List Char × List Char)
  | [] => none
  | '\'' :: cs => some ([], cs)
  | c :: cs => if isPlain c then consChar c <$> readLiteral cs else none

/-! ### Strings over lines -/

/-- The rest of a text behind a line feed, with or without a carriage return before it. -/
def afterNewline? : List Char → Option (List Char)
  | '\n' :: cs => some cs
  | '\r' :: '\n' :: cs => some cs
  | _ => none

/-- The text without a line end at its start. -/
def dropNewline (cs : List Char) : List Char := (afterNewline? cs).getD cs

/-- What follows three or more quotes, and how many of them, at most two, still belong to the
string; nothing if there are fewer than three. -/
def closing? (quote : Char) (cs : List Char) : Option (List Char × List Char) :=
  let count := (cs.take 5).takeWhile (· == quote) |>.length
  if count < 3 then none else some (List.replicate (count - 3) quote, cs.drop count)

/-- Whether the line ends behind some space. -/
def endsLine (cs : List Char) : Bool := (afterNewline? (cs.dropWhile isSpace)).isSome

/-- How many characters of space and line ends a text starts with. -/
def gapLength : List Char → Nat
  | '\r' :: '\n' :: cs => gapLength cs + 2
  | c :: cs => if isSpace c || c == '\n' then gapLength cs + 1 else 0
  | [] => 0

/-- A string between three double quotes.  A backslash at the end of a line takes away all space up
to the next character.  The number says how many characters to pass over. -/
def readBasicLines : Nat → List Char → Option (List Char × List Char)
  | _, [] => none
  | pass + 1, _ :: cs => readBasicLines pass cs
  | 0, '\\' :: cs =>
    match cs with
    | [] => none
    | e :: hex =>
      match escaped? e, hexCount? e with
      | some c, _ => consChar c <$> readBasicLines 1 cs
      | none, some count => do
        let c ← hexChar? count hex
        consChar c <$> readBasicLines (count + 1) cs
      | none, none => if endsLine cs then readBasicLines (gapLength cs) cs else none
  | 0, c :: cs =>
    match closing? '"' (c :: cs) with
    | some found => some found
    | none =>
      if isPlain c || c == '\n' || (c == '\r' && cs.head? == some '\n') then
        consChar c <$> readBasicLines 0 cs
      else none

/-- A string between three single quotes. -/
def readLiteralLines : List Char → Option (List Char × List Char)
  | [] => none
  | c :: cs =>
    match closing? '\'' (c :: cs) with
    | some found => some found
    | none =>
      if isPlain c || c == '\n' || (c == '\r' && cs.head? == some '\n') then
        consChar c <$> readLiteralLines cs
      else none

end DeckKeywords.Toml
