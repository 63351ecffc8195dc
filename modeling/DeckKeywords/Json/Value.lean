/-
DeckKeywords/Json/Value.lean

JSON values: what a text means once it has been read in full.  The members of
an object are kept in order, repeated keys included.
-/
import DeckKeywords.Json.Numeral

namespace DeckKeywords.Json

/-- A JSON value. -/
inductive Value where
  | null
  | bool (b : Bool)
  | number (n : Number)
  | text (s : String)
  | array (items : List Value)
  | object (members : List (String × Value))
  deriving Repr, Inhabited

namespace Value

/-- A natural number `n` as a value. -/
def nat (n : Nat) : Value := number (.integer n)

/-- An integer `i` as a value. -/
def int (i : Int) : Value := number (.integer i)

/-- The texts `ss` as a value. -/
def texts (ss : List String) : Value := array (ss.map text)

/-- The text, if the value is one. -/
def text? : Value → Option String
  | text s => some s
  | _ => none

/-- The texts, if the value is an array of texts. -/
def texts? : Value → Option (List String)
  | array items => items.mapM text?
  | _ => none

end Value

end DeckKeywords.Json
