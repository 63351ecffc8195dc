/-
DeckKeywords/Toml/Reader.lean

Reading a TOML text: keys and values, then lines, then the whole text.  A text
that is not TOML has no reading; where it goes wrong is not told.

Lines and items repeat, and values nest, so their readers count down a bound.
Twice the length of the text, with two to spare, is never used up.  Keys and
nested values have a limit of their own.
-/
import DeckKeywords.Text.ByteOrderMark
import DeckKeywords.Toml.Quoted
import DeckKeywords.Toml.Scalar

namespace DeckKeywords.Toml

/-! ### Space -/

/-- Passes over space. -/
def skipSpace (cs : List Char) : List Char := cs.dropWhile isSpace

/-- Passes over space, line ends and comments; the flag says whether a comment is going on. -/
def skipGap : Bool → List Char → Option (List Char)
  | _, [] => some []
  | _, '\n' :: cs => skipGap false cs
  | _, '\r' :: '\n' :: cs => skipGap false cs
  | true, c :: cs => if isPlain c then skipGap true cs else none
  | false, c :: cs =>
    if c == '#' then skipGap true cs
    else if isSpace c then skipGap false cs
    else some (c :: cs)

/-- Passes over the rest of a line, which holds nothing but space and perhaps a comment. -/
def endLine (cs : List Char) : Option (List Char) :=
  let rest :=
    match skipSpace cs with
    | '#' :: comment => comment.dropWhile isPlain
    | cs => cs
  if rest.isEmpty then some [] else afterNewline? rest

/-! ### Keys -/

/-- Whether a character may stand in a name without quotes. -/
def isNameChar (c : Char) : Bool := c.isAlphanum || c == '_' || c == '-'

/-- A name, with or without quotes. -/
def readName : List Char → Option (String × List Char)
  | '"' :: cs => (readBasic 0 cs).map fun (name, rest) => (String.ofList name, rest)
  | '\'' :: cs => (readLiteral cs).map fun (name, rest) => (String.ofList name, rest)
  | cs =>
    match cs.span isNameChar with
    | ([], _) => none
    | (name, rest) => some (String.ofList name, rest)

/-- How many names a key may have, and how many brackets and braces of values may be open at
once. -/
def depthLimit : Nat := 80

/-- At most so many names between dots, with the space around them. -/
def readNames : Nat → List Char → Option (Key × List Char)
  | 0, _ => none
  | more + 1, cs => do
    let (name, rest) ← readName (skipSpace cs)
    match skipSpace rest with
    | '.' :: rest => do
      let (k, rest) ← readNames more rest
      return (⟨name :: k.path, k.last⟩, rest)
    | rest => return (⟨[], name⟩, rest)

/-- A key. -/
def readKey (cs : List Char) : Option (Key × List Char) := readNames depthLimit cs

/-! ### Values -/

/-- A text as a value. -/
def textNode (t : List Char × List Char) : Node × List Char :=
  (.scalar (.text (String.ofList t.1)), t.2)

mutual

/-- A value, inside the given number of open brackets. -/
def readValue : Nat → Nat → List Char → Option (Node × List Char)
  | 0, _, _ => none
  | fuel + 1, opened, cs =>
    match cs with
    | '"' :: '"' :: '"' :: cs => textNode <$> readBasicLines 0 (dropNewline cs)
    | '"' :: cs => textNode <$> readBasic 0 cs
    | '\'' :: '\'' :: '\'' :: cs => textNode <$> readLiteralLines (dropNewline cs)
    | '\'' :: cs => textNode <$> readLiteral cs
    | '[' :: cs =>
      if depthLimit ≤ opened then none
      else do
        let (items, rest) ← readItems fuel (opened + 1) cs
        return (.array items, rest)
    | '\x7b' :: cs =>
      if depthLimit ≤ opened then none
      else do
        let (pairs, rest) ← readPairs fuel (opened + 1) cs
        return (← ofPairs pairs, rest)
    | cs => do
      let (word, rest) := takeWord cs
      let s ← Scalar.ofWord? word
      return (.scalar s, rest)

/-- The items of an array, up to its bracket.  A comma may follow the last one. -/
def readItems : Nat → Nat → List Char → Option (List Node × List Char)
  | 0, _, _ => none
  | fuel + 1, opened, cs => do
    match ← skipGap false cs with
    | ']' :: rest => return ([], rest)
    | cs => do
      let (item, rest) ← readValue fuel opened cs
      match ← skipGap false rest with
      | ']' :: rest => return ([item], rest)
      | ',' :: rest => do
        let (items, rest) ← readItems fuel opened rest
        return (item :: items, rest)
      | _ => none

/-- The keys and values of a table between braces, up to its brace.  Lines may end around its commas
and equals signs, and a comma may follow the last value. -/
def readPairs : Nat → Nat → List Char → Option (List (Key × Node) × List Char)
  | 0, _, _ => none
  | fuel + 1, opened, cs => do
    match ← skipGap false cs with
    | '\x7d' :: rest => return ([], rest)
    | cs => do
      let (key, rest) ← readKey cs
      let rest ← after '=' (← skipGap false rest)
      let (node, rest) ← readValue fuel opened (← skipGap false rest)
      match ← skipGap false rest with
      | '\x7d' :: rest => return ([(key, node)], rest)
      | ',' :: rest => do
        let (pairs, rest) ← readPairs fuel opened rest
        return ((key, node) :: pairs, rest)
      | _ => none

end

/-! ### Lines -/

/-- A header behind its brackets: its key, and the rest behind the closing ones. -/
def readHeader (isItem : Bool) (cs : List Char) : Option (Line × List Char) := do
  let (key, rest) ← readKey cs
  let rest ← after ']' rest
  if isItem then
    let rest ← after ']' rest
    return (.item key, rest)
  else return (.table key, rest)

/-- A line that counts, up to its end. -/
def readLine (fuel : Nat) : List Char → Option (Line × List Char)
  | '[' :: '[' :: cs => readHeader true cs
  | '[' :: cs => readHeader false cs
  | cs => do
    let (key, rest) ← readKey cs
    let rest ← after '=' rest
    let (node, rest) ← readValue fuel 0 (skipSpace rest)
    return (.assignment key node, rest)

/-- The lines that count. -/
def readLines : Nat → List Char → Option (List Line)
  | 0, _ => none
  | fuel + 1, cs => do
    match ← skipGap false cs with
    | [] => return []
    | cs => do
      let (line, rest) ← readLine fuel cs
      let rest ← endLine rest
      let lines ← readLines fuel rest
      return line :: lines

/-- The members that a text describes. -/
def ofText? (s : String) : Option Members := do
  let cs := Text.withoutMark s.toList
  let lines ← readLines (2 * cs.length + 2) cs
  ofLines lines

end DeckKeywords.Toml
