/-
DeckKeywords/Json/Reader.lean

Reading a JSON text into a tree, in one pass and without judging: the first
place where the text stops being JSON becomes part of the tree, and nothing
behind it is looked at.

Each reader gives back the characters that follow what it read, or none at all
behind a break.  Values nest, so their reader counts down a bound; twice the
length of the text, with two to spare, is never used up.
-/
import DeckKeywords.Json.Tree

namespace DeckKeywords.Json

/-- The white space of JSON. -/
def isSpace (c : Char) : Bool := c == ' ' || c == '\t' || c == '\n' || c == '\r'

/-- The text behind its leading white space. -/
def skipSpace (cs : List Char) : List Char := cs.dropWhile isSpace

/-! ### Literals and numbers -/

/-- The rest of a literal such as `null`. -/
def readLiteral (tree : Tree) : List Char → List Char → Tree × List Char
  | [], cs => (tree, cs)
  | _ :: _, [] => (.broken .literalCut, [])
  | l :: ls, c :: cs => if c = l then readLiteral tree ls cs else (.broken .literalWrong, [])

/-- The leading digits, and the text behind them. -/
def takeDigits : List Char → List Nat × List Char
  | [] => ([], [])
  | c :: cs =>
    match Text.digitValue? 10 c with
    | some d => let (ds, rest) := takeDigits cs; (d :: ds, rest)
    | none => ([], c :: cs)

/-- At least one digit. -/
def someDigits (cs : List Char) : Except Break (List Nat × List Char) :=
  match takeDigits cs with
  | ([], []) => .error .numberCut
  | ([], _ :: _) => .error .numberWrong
  | found => .ok found

/-- The digits before the point: one zero, or digits that do not start with one. -/
def wholeDigits (cs : List Char) : Except Break (List Nat × List Char) := do
  let (ds, rest) ← someDigits cs
  match ds with
  | 0 :: _ :: _ => .error .numberWrong
  | _ => .ok (ds, rest)

/-- The digits behind the point, if there is a point. -/
def fractionDigits : List Char → Except Break (List Nat × List Char)
  | '.' :: cs => someDigits cs
  | cs => .ok ([], cs)

/-- The power of ten, if there is one. -/
def exponentPart (cs : List Char) : Except Break (Option Int × List Char) :=
  match cs with
  | c :: rest =>
    if c = 'e' || c = 'E' then
      match rest with
      | '-' :: rest => do
        let (ds, rest) ← someDigits rest
        return (some (-(Text.ofDigits 10 ds : Int)), rest)
      | '+' :: rest => do
        let (ds, rest) ← someDigits rest
        return (some (Text.ofDigits 10 ds : Int), rest)
      | rest => do
        let (ds, rest) ← someDigits rest
        return (some (Text.ofDigits 10 ds : Int), rest)
    else .ok (none, cs)
  | [] => .ok (none, [])

/-- A number behind its sign. -/
def numeral (negative : Bool) (cs : List Char) : Except Break (Numeral × List Char) := do
  let (whole, rest) ← wholeDigits cs
  let (fraction, rest) ← fractionDigits rest
  let (exponent, rest) ← exponentPart rest
  return (⟨negative, whole, fraction, exponent⟩, rest)

/-- A number, as a tree. -/
def readNumber (negative : Bool) (cs : List Char) : Tree × List Char :=
  match numeral negative cs with
  | .ok (n, rest) => (.number n, rest)
  | .error b => (.broken b, [])

/-! ### Strings -/

/-- The unit that four hexadecimal digits spell. -/
def hexUnit? (a b c d : Char) : Option Nat := do
  let a ← Text.hexValue? a
  let b ← Text.hexValue? b
  let c ← Text.hexValue? c
  let d ← Text.hexValue? d
  return ((a * 16 + b) * 16 + c) * 16 + d

/-- The character that a letter stands for behind a backslash. -/
def escaped? : Char → Option Char
  | '"' => some '"'
  | '\\' => some '\\'
  | '/' => some '/'
  | 'b' => some '\x08'
  | 'f' => some '\x0c'
  | 'n' => some '\n'
  | 'r' => some '\r'
  | 't' => some '\t'
  | _ => none

/-- Why a hexadecimal escape of fewer than four characters fails: the text ends inside it, unless
its UTF-8 form holds the four bytes that were asked for. -/
def shortHex (cs : List Char) : Break :=
  if (String.ofList cs).utf8ByteSize < 4 then .stringCut else .hexWrong

/-- Puts a piece before a string that is already read. -/
def Token.cons (p : Piece) (t : Token × List Char) : Token × List Char :=
  (⟨p :: t.1.pieces, t.1.stop⟩, t.2)

/-- A string behind its opening quote. -/
def readText : List Char → Token × List Char
  | [] => (⟨[], some .stringCut⟩, [])
  | '"' :: cs => (⟨[], none⟩, cs)
  | ['\\'] => (⟨[], some .stringCut⟩, [])
  | '\\' :: 'u' :: a :: b :: c :: d :: cs =>
    match hexUnit? a b c d with
    | some n => Token.cons (.unit n) (readText cs)
    | none => (⟨[], some .hexWrong⟩, [])
  | '\\' :: 'u' :: cs => (⟨[], some (shortHex cs)⟩, [])
  | '\\' :: e :: cs =>
    match escaped? e with
    | some c => Token.cons (.char c) (readText cs)
    | none => (⟨[], some .escapeWrong⟩, [])
  | c :: cs =>
    if c.toNat < 0x20 then (⟨[], some .controlInString⟩, [])
    else Token.cons (.char c) (readText cs)

/-! ### Values -/

mutual

/-- A value, with the white space before it. -/
def readValue : Nat → List Char → Tree × List Char
  | 0, _ => (.broken .valueMissing, [])
  | fuel + 1, cs =>
    match skipSpace cs with
    | [] => (.broken .valueMissing, [])
    | c :: cs =>
      match c with
      | 'n' => readLiteral .null ['u', 'l', 'l'] cs
      | 't' => readLiteral (.bool true) ['r', 'u', 'e'] cs
      | 'f' => readLiteral (.bool false) ['a', 'l', 's', 'e'] cs
      | '"' => let (t, rest) := readText cs; (.text t, rest)
      | '[' =>
        match skipSpace cs with
        | [] => (.list [] (some .listCut), [])
        | ']' :: rest => (.list [] none, rest)
        | rest => let (items, stop, rest) := readItems fuel rest; (.list items stop, rest)
      | '\x7b' =>
        match skipSpace cs with
        | [] => (.object [] (some .objectCut), [])
        | '\x7d' :: rest => (.object [] none, rest)
        | '"' :: rest => let (ms, stop, rest) := readMembers fuel rest; (.object ms stop, rest)
        | _ => (.object [] (some .keyNotText), [])
      | '-' => readNumber true cs
      | c => if c.isDigit then readNumber false (c :: cs) else (.broken .notValue, [])

/-- The items of a list, up to its bracket. -/
def readItems : Nat → List Char → List Tree × Option Break × List Char
  | 0, _ => ([], some .listCut, [])
  | fuel + 1, cs =>
    let (item, rest) := readValue fuel cs
    match skipSpace rest with
    | [] => ([item], some .listCut, [])
    | ']' :: rest => ([item], none, rest)
    | ',' :: rest =>
      match skipSpace rest with
      | ']' :: _ => ([item], some .listCommaLast, [])
      | rest => let (items, stop, rest) := readItems fuel rest; (item :: items, stop, rest)
    | _ => ([item], some .listCommaMissing, [])

/-- The members of an object behind the opening quote of a key, up to its bracket. -/
def readMembers : Nat → List Char → List (Token × Tree) × Option Break × List Char
  | 0, _ => ([], some .objectCut, [])
  | fuel + 1, cs =>
    let (key, rest) := readText cs
    let (item, rest) :=
      match skipSpace rest with
      | [] => (.broken .objectCut, [])
      | ':' :: rest => readValue fuel rest
      | _ => (.broken .colonMissing, [])
    match skipSpace rest with
    | [] => ([(key, item)], some .objectCut, [])
    | '\x7d' :: rest => ([(key, item)], none, rest)
    | ',' :: rest =>
      match skipSpace rest with
      | [] => ([(key, item)], some .objectCutAfterComma, [])
      | '"' :: rest =>
        let (ms, stop, rest) := readMembers fuel rest
        ((key, item) :: ms, stop, rest)
      | '\x7d' :: _ => ([(key, item)], some .objectCommaLast, [])
      | _ => ([(key, item)], some .keyNotText, [])
    | _ => ([(key, item)], some .objectCommaMissing, [])

end

/-- The tree of a text. -/
def Document.ofText (s : String) : Document :=
  let cs := s.toList
  let (root, rest) := readValue (2 * cs.length + 2) cs
  ⟨root, !(skipSpace rest).isEmpty⟩

end DeckKeywords.Json
