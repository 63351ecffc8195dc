/-
DeckKeywords/Json/Decode.lean

From trees to values of a wanted type.  A decoder looks at a tree in the order
of its text and stops at the first fault: a value of the wrong shape is refused
where it begins, a scalar only after it has been read in full.
-/
import DeckKeywords.Json.Reader
import DeckKeywords.OrderedMap

namespace DeckKeywords.Json

namespace Tree

/-- What stands at the root of a tree; scalars are read in full. -/
def found : Tree → Except Fault Found
  | null => .ok .null
  | bool b => .ok (.boolean b)
  | number n => do
    match ← n.read with
    | .integer i => return .integer i
    | .real n => return .real n
  | text t => .text <$> t.read
  | list .. => .ok .sequence
  | object .. => .ok .mapping
  | broken b => .error b.built

/-- The fault of a tree `t` that is of another type than the `expected` one. -/
def refusal (t : Tree) (expected : String) : Fault :=
  match t.found with
  | .ok f => .wrongType f expected
  | .error e => e

/-- A text. -/
def asText : Tree → Except Fault String
  | text t => t.read
  | t => .error (t.refusal "a string")

/-- A signed 64-bit integer. -/
def asInt64 : Tree → Except Fault Int
  | number n => do
    match ← n.read with
    | .integer i =>
      if i < Decimal.twoTo 63 then return i else .error (.wrongValue (.integer i) "i64")
    | .real n => .error (.wrongType (.real n) "i64")
  | t => .error (t.refusal "i64")

/-- A list, inside the number `opened` of open brackets; each `item` by the given decoder. -/
def asList {α : Type} (expected : String) (opened : Nat) (item : Tree → Except Fault α) :
    Tree → Except Fault (List α)
  | list items stop => do
    checkDepth opened
    let xs ← items.mapM item
    close stop
    return xs
  | t => .error (t.refusal expected)

/-- Reads the members of an object in turn, each with its key, by the decoder `member`. -/
def readEach {α : Type} (member : String → Tree → Except Fault α) :
    List (Token × Tree) → Except Fault (List α)
  | [] => .ok []
  | (k, t) :: ms => do
    let key ← k.read
    let x ← member key t
    let xs ← readEach member ms
    return x :: xs

/-- The members of an object in the order of the text, each by the decoder `member`. -/
def asMembers {α : Type} (expected : String) (opened : Nat)
    (member : String → Tree → Except Fault α) : Tree → Except Fault (List α)
  | object members stop => do
    checkDepth opened
    let xs ← readEach member members
    close stop
    return xs
  | t => .error (t.refusal expected)

/-- An object `t` as a map: a repeated key keeps its first position and its last value. -/
def asMap {α : Type} (opened : Nat) (item : Tree → Except Fault α) (t : Tree) :
    Except Fault (OrderedMap α) :=
  OrderedMap.ofList <$> t.asMembers "a map with string keys" opened fun k t => (k, ·) <$> item t

end Tree

/-- Decodes a whole text `s`. -/
def decode {α : Type} (root : Tree → Except Fault α) (s : String) : Except Fault α := do
  let doc := Document.ofText s
  let a ← root doc.root
  if doc.trailing then .error .trailingCharacters else return a

end DeckKeywords.Json
