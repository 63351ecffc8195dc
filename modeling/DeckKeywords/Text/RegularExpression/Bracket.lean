/-
DeckKeywords/Text/RegularExpression/Bracket.lean

Classes of characters between square brackets: characters, ranges, escapes,
named classes and classes inside classes, and the operators between them.

What is read is only how deep it nests: a class counts one more than what
stands in it, and so does a row of several parts and an operator.
-/
import DeckKeywords.Text.RegularExpression.Atom

namespace DeckKeywords.Text.RegularExpression

/-! ### Parts of classes -/

/-- The names of classes. -/
def classNames : List String :=
  ["alnum", "alpha", "ascii", "blank", "cntrl", "digit", "graph", "lower", "print", "punct",
    "space", "upper", "word", "xdigit"]

/-- A named class, behind its opening bracket: whether it is negated, and what follows it. -/
def readNamed : List Char → Option (Bool × List Char)
  | ':' :: cs =>
    let (negated, cs) := if cs.head? = some '^' then (true, cs.tail) else (false, cs)
    match cs.span (· ≠ ':') with
    | (name, ':' :: ']' :: rest) =>
      if classNames.contains (String.ofList name) then some (negated, rest) else none
    | _ => none
  | _ => none

/-- A character or an escape. -/
def readMember (w : Switches) : List Char → Option (Atom × List Char)
  | [] => none
  | '\\' :: cs => readEscape w cs
  | c :: cs => some (.character c false, cs)

/-- The character that follows a hyphen; of a comment its first one. -/
def behindHyphen (w : Switches) (cs : List Char) : Option Char :=
  if w.spaced then
    match cs.dropWhile isBlank with
    | '#' :: comment => (comment.dropWhile isBlank).head?
    | cs => cs.head?
  else cs.head?

/-- Passes over a member, or over a range of characters in ascending order. -/
def readRange (w : Switches) (cs : List Char) : Option (List Char) := do
  let (first, rest) ← readMember w cs
  match w.skip rest with
  | [] => none
  | '-' :: more =>
    if [some ']', some '-'].contains (behindHyphen w more) then
      if first.standsInClass w then some ('-' :: more) else none
    else do
      let (last, rest) ← readMember w (w.skip more)
      match first, last with
      | .character a _, .character b _ =>
        if first.standsInClass w && last.standsInClass w && a ≤ b then some rest else none
      | _, _ => none
  | rest => if first.standsInClass w then some rest else none

/-- What follows an operator between classes. -/
def afterOperator? : List Char → Option (List Char)
  | '&' :: '&' :: cs | '-' :: '-' :: cs | '~' :: '~' :: cs => some cs
  | _ => none

/-! ### Depth -/

/-- The depth of parts in a row: one part is no deeper than itself. -/
def rowDepth : List Nat → Nat
  | [] => 0
  | [d] => d
  | ds => 1 + ds.foldl max 0

/-- The depth of a row behind an operator, if there is one. -/
def operatorDepth (before : Option Nat) (row : List Nat) : Nat :=
  match before with
  | none => rowDepth row
  | some d => 1 + max d (rowDepth row)

/-! ### Classes -/

/-- Opens a class behind its bracket.  A negated class of bytes could match half a character. -/
def openClass (w : Switches) (cs : List Char) : Option (List Char) :=
  match w.skip cs with
  | '^' :: rest => if w.universal then some rest else none
  | rest => some rest

/-- Reads the parts of a class up to its bracket: how deep the class nests, and what follows it.
Given are what stands before the last operator and the parts behind it.  Hyphens at the start, and a
bracket there, stand for themselves. -/
def readParts (w : Switches) :
    Nat → Bool → Option Nat → List Nat → List Char → Option (Nat × List Char)
  | 0, _, _, _, _ => none
  | fuel + 1, atStart, before, row, cs =>
    match w.skip cs with
    | [] => none
    | c :: rest =>
      if atStart && c = '-' then readParts w fuel true before (0 :: row) rest
      else if atStart && row.isEmpty && c = ']' then readParts w fuel false before [0] rest
      else if c = ']' then some (1 + operatorDepth before row, rest)
      else if c = '[' then
        match readNamed rest with
        | some (negated, rest) =>
          if negated && !w.universal then none
          else readParts w fuel false before (0 :: row) rest
        | none => do
          let (depth, rest) ← readParts w fuel true none [] (← openClass w rest)
          readParts w fuel false before (depth :: row) rest
      else
        match afterOperator? (c :: rest) with
        | some rest => readParts w fuel false (some (operatorDepth before row)) [] rest
        | none => do
          let rest ← readRange w (c :: rest)
          readParts w fuel false before (0 :: row) rest

/-- Reads a class behind its bracket. -/
def readClass (w : Switches) (cs : List Char) : Option (Nat × List Char) := do
  let inside ← openClass w cs
  readParts w (inside.length + 1) true none [] inside

end DeckKeywords.Text.RegularExpression
