/-
DeckKeywords/Text/RegularExpression.lean

Which texts are regular expressions.  An expression is read from left to right,
with the groups that are open on a stack; nothing is kept of it but what
decides about the rest: the switches that are on, the names of groups, and how
deep the parts nest.

Texts with a closing brace are not meant here.  An expression may not look
ahead or behind, and may nest 250 deep.
-/
import DeckKeywords.Text.RegularExpression.Bracket
import DeckKeywords.Text.Split

namespace DeckKeywords.Text.RegularExpression

/-- The depth that may be reached. -/
def nestingLimit : Nat := 250

/-- A part of a row: how deep it nests, and whether it can be repeated. -/
structure Part where
  depth : Nat
  repeatable : Bool

/-- A group that is open: the switches outside, the parts in front of it, and the rows before
those. -/
structure OpenGroup where
  switches : Switches
  parts : List Part
  rows : List Nat

/-- How far reading has come: the switches that are on, the names given to groups, the parts of the
row here, the last one first, the depths of the rows before it, and the groups around it. -/
structure Progress where
  switches : Switches
  names : List (List Char)
  parts : List Part
  rows : List Nat
  around : List OpenGroup

namespace Progress

/-- Nothing is read yet. -/
def start : Progress := ⟨.initial, [], [], [], []⟩

/-- Adds a part to the row. -/
def push (p : Progress) (depth : Nat) (repeatable : Bool) : Progress :=
  { p with parts := ⟨depth, repeatable⟩ :: p.parts }

/-- The depth of the row here. -/
def here (p : Progress) : Nat := rowDepth (p.parts.map Part.depth)

/-- The depth of all rows of the group. -/
def depth (p : Progress) : Nat := rowDepth (p.here :: p.rows)

/-- Starts another row. -/
def nextRow (p : Progress) : Progress := { p with parts := [], rows := p.here :: p.rows }

/-- Repeats the last part. -/
def repeated (p : Progress) : Option Progress :=
  match p.parts with
  | part :: parts =>
    if part.repeatable then some { p with parts := ⟨part.depth + 1, true⟩ :: parts } else none
  | [] => none

/-- Opens a group with switches of its own. -/
def enter (p : Progress) (w : Switches) : Progress :=
  { p with
    switches := w
    parts := []
    rows := []
    around := ⟨p.switches, p.parts, p.rows⟩ :: p.around }

/-- Closes a group. -/
def leave (p : Progress) : Option Progress :=
  match p.around with
  | [] => none
  | g :: around =>
    let outside : Progress := ⟨g.switches, p.names, g.parts, g.rows, around⟩
    some (outside.push (p.depth + 1) true)

/-- Whether an expression may end here. -/
def isComplete (p : Progress) : Bool := p.around.isEmpty && p.depth ≤ nestingLimit

end Progress

/-! ### Groups -/

/-- The letters of switches; a hyphen turns off those behind it. -/
def switchLetters : List Char := ['i', 'm', 's', 'U', 'u', 'R', 'x', '-']

/-- Whether letters set switches: each one at most once, and a hyphen not at the end. -/
def areSwitches (cs : List Char) : Bool :=
  cs.all switchLetters.contains && cs.all (fun c => cs.count c = 1) && cs.getLast? ≠ some '-'

/-- Sets switches. -/
def Switches.set (w : Switches) (cs : List Char) : Switches :=
  let on := cs.takeWhile (· ≠ '-')
  let value (c : Char) (old : Bool) : Bool :=
    if on.contains c then true else if cs.contains c then false else old
  ⟨value 'x' w.spaced, value 'u' w.universal, value 'i' w.caseless⟩

/-- Whether a group can have the name. -/
def isName : List Char → Bool
  | [] => false
  | c :: cs =>
    (c = '_' || isAlphabetic c)
      && cs.all fun c => ['_', '.', '[', ']'].contains c || isAlphanumeric c

/-- A group that is named, behind the angle in front of its name. -/
def openNamed (p : Progress) (cs : List Char) : Option (Progress × List Char) := do
  let (name, rest) ← splitFirst '>' cs
  if isName name && !p.names.contains name then
    some (({ p with names := name :: p.names } : Progress).enter p.switches, rest)
  else none

/-- A group with switches, or switches for the rest of the group around. -/
def openSwitched (p : Progress) (cs : List Char) : Option (Progress × List Char) :=
  match cs.span fun c => c ≠ ':' && c ≠ ')' with
  | (letters, mark :: rest) =>
    let w := p.switches.set letters
    if !areSwitches letters then none
    else if mark = ':' then some (p.enter w, rest)
    else if letters.isEmpty then none
    else some (({ p with switches := w } : Progress).push 0 false, rest)
  | _ => none

/-- A group behind its parenthesis. -/
def openGroup (p : Progress) (cs : List Char) : Option (Progress × List Char) :=
  match p.switches.skip cs with
  | '?' :: 'P' :: '<' :: rest => openNamed p rest
  | '?' :: '<' :: rest =>
    if [some '=', some '!'].contains rest.head? then none else openNamed p rest
  | '?' :: rest => openSwitched p rest
  | rest => some (p.enter p.switches, rest)

/-! ### Expressions -/

/-- An atom by itself. -/
def readAtom (p : Progress) : List Char → Option (Progress × List Char)
  | [] => none
  | c :: cs => do
    let (atom, rest) ←
      match c with
      | '\\' => readEscape p.switches cs
      | '.' => some (.anyCharacter, cs)
      | '^' | '$' => some (.place false, cs)
      | c => some (.character c false, cs)
    if atom.stands p.switches then some (p.push 0 true, rest) else none

/-- Reads one part further. -/
def readPart (p : Progress) : List Char → Option (Progress × List Char)
  | '(' :: cs => openGroup p cs
  | ')' :: cs => p.leave.map fun p => (p, cs)
  | '|' :: cs => some (p.nextRow, cs)
  | '[' :: cs => (readClass p.switches cs).map fun (depth, rest) => (p.push depth true, rest)
  | '\x7b' :: _ => none
  | c :: cs =>
    if ['?', '*', '+'].contains c then
      p.repeated.map fun p => (p, if cs.head? = some '?' then cs.tail else cs)
    else readAtom p (c :: cs)
  | [] => none

/-- Reads part after part. -/
def readAll : Nat → Progress → List Char → Option Progress
  | 0, _, _ => none
  | fuel + 1, p, cs => do
    match p.switches.skip cs with
    | [] => some p
    | cs => do
      let (p, rest) ← readPart p cs
      readAll fuel p rest

end RegularExpression

/-- Whether characters are a regular expression. -/
def isRegularExpression (cs : List Char) : Bool :=
  (RegularExpression.readAll (cs.length + 1) .start cs).any (·.isComplete)

end DeckKeywords.Text
