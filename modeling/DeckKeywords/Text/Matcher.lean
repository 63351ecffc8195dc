/-
DeckKeywords/Text/Matcher.lean

Matching by a list of successes.  A matcher gives every way to match at a
place, the preferred way first: optional parts prefer to be there, repeated
parts prefer to be long.  The match of a whole pattern is the first of the
list, so a choice that fails further on gives way to the next one.
-/
import DeckKeywords.Text.Word

namespace DeckKeywords.Text

/-- A place in a text: the character before it, if any, and the characters after it. -/
structure Cursor where
  before : Option Char
  rest : List Char
  deriving DecidableEq, Repr

/-- The place before the first character of `cs`. -/
def Cursor.start (cs : List Char) : Cursor := ⟨none, cs⟩

/-- All ways to match at a cursor, each with its result in `α` and the cursor behind it, the
preferred one first. -/
def Matcher (α : Type) := Cursor → List (α × Cursor)

namespace Matcher

instance : Monad Matcher where
  pure a := fun k => [(a, k)]
  bind m f := fun k => (m k).flatMap fun (a, k') => f a k'

/-- One character of a class `p`. -/
def char (p : Char → Bool) : Matcher Char := fun k =>
  match k.rest with
  | c :: cs => if p c then [(c, ⟨some c, cs⟩)] else []
  | [] => []

/-- The cursors reached over characters of a class `p`, the furthest one first, put before those in
`reached`. -/
def cursorsOver (p : Char → Bool) (before : Option Char) (reached : List Cursor) :
    List Char → List Cursor
  | [] => ⟨before, []⟩ :: reached
  | c :: cs =>
    if p c then cursorsOver p (some c) (⟨before, c :: cs⟩ :: reached) cs
    else ⟨before, c :: cs⟩ :: reached

/-- Any number of characters of a class `p`. -/
def skipMany (p : Char → Bool) : Matcher Unit := fun k =>
  (cursorsOver p k.before [] k.rest).map ((), ·)

/-- At least one character of a class `p`. -/
def skipSome (p : Char → Bool) : Matcher Unit := do
  let _ ← char p
  skipMany p

/-- At most `n` characters of a class. -/
def atMost (p : Char → Bool) : Nat → Matcher (List Char)
  | 0 => pure []
  | n + 1 => fun k =>
    (do let c ← char p; let cs ← atMost p n; pure (c :: cs) : Matcher (List Char)) k ++ [([], k)]

/-- At least one and at most `n` characters of a class. -/
def oneTo (p : Char → Bool) (n : Nat) : Matcher (List Char) := do
  let c ← char p
  let cs ← atMost p (n - 1)
  pure (c :: cs)

/-- One character of each class in turn. -/
def each : List (Char → Bool) → Matcher (List Char)
  | [] => pure []
  | p :: ps => do
    let c ← char p
    let cs ← each ps
    pure (c :: cs)

/-- The part `m`, or nothing. -/
def optional {α : Type} (m : Matcher α) : Matcher (Option α) := fun k =>
  (m k).map (fun (a, k') => (some a, k')) ++ [(none, k)]

/-- Whether exactly one side of the cursor `k` is a word character. -/
def atBoundary (k : Cursor) : Bool := k.before.any isWord != k.rest.head?.any isWord

/-- Matches nothing, at a word boundary only. -/
def boundary : Matcher Unit := fun k => if atBoundary k then [((), k)] else []

/-- The preferred match of `m` at a cursor `k`. -/
def first? {α : Type} (m : Matcher α) (k : Cursor) : Option α := (m k).head?.map Prod.fst

end Matcher

/-! ### Letters in any case -/

/-- Whether the character `c` folds to the lower-case ASCII letter `letter`.  Beyond ASCII two
characters fold to one: the long s and the Kelvin sign. -/
def foldsTo (letter c : Char) : Bool :=
  c.toLower == letter || (c == 'ſ' && letter == 's') || (c == '\u212A' && letter == 'k')

/-- Whether the character `c` folds to some ASCII letter. -/
def isFoldedLetter (c : Char) : Bool := c.isAlpha || c == 'ſ' || c == '\u212A'

/-- The `letters` of a lower-case word, in any case. -/
def Matcher.word (letters : String) : Matcher (List Char) :=
  Matcher.each (letters.toList.map foldsTo)

end DeckKeywords.Text
