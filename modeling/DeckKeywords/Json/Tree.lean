/-
DeckKeywords/Json/Tree.lean

A JSON text as it was written, up to where it breaks off.  A tree keeps what a
value would lose: the order and repetition of members, the spelling of
escapes and numbers, and, in place, the reason why the text stops being JSON.

Whoever walks a tree in order therefore meets its faults in the order of the
text.  There are two ways to walk: a part may be built, or it may be skipped
because nobody asks for it.  Skipping is more lenient about escapes and numbers,
and it words a few faults differently.
-/
import DeckKeywords.Json.Fault
import DeckKeywords.Json.Value

namespace DeckKeywords.Json

/-- Why a text stops being JSON. -/
inductive Break where
  | valueMissing
  | notValue
  | literalCut
  | literalWrong
  | numberCut
  | numberWrong
  | stringCut
  | escapeWrong
  | hexWrong
  | controlInString
  | listCut
  | listCommaMissing
  | listCommaLast
  | objectCut
  | objectCutAfterComma
  | objectCommaMissing
  | objectCommaLast
  | keyNotText
  | colonMissing
  deriving DecidableEq, Repr

namespace Break

/-- The fault, when the part is built. -/
def built : Break → Fault
  | valueMissing | literalCut | numberCut | objectCutAfterComma => .endOfText .value
  | notValue => .valueExpected
  | literalWrong => .unknownLiteral
  | numberWrong => .invalidNumber
  | stringCut => .endOfText .string
  | escapeWrong | hexWrong => .invalidEscape
  | controlInString => .controlCharacter
  | listCut => .endOfText .list
  | listCommaMissing => .listSeparatorExpected
  | listCommaLast | objectCommaLast => .trailingComma
  | objectCut => .endOfText .object
  | objectCommaMissing => .objectSeparatorExpected
  | keyNotText => .keyNotText
  | colonMissing => .colonExpected

/-- The fault, when the part is skipped. -/
def skipped : Break → Fault
  | numberCut => .invalidNumber
  | listCommaLast => .valueExpected
  | objectCommaLast => .keyNotText
  | objectCutAfterComma => .endOfText .object
  | b => b.built

/-- The fault, when a list should have ended here whatever stands there. -/
def afterLast : Break → Fault
  | listCommaMissing => .trailingCharacters
  | b => b.built

end Break

/-! ### Trees -/

/-- A piece of a string: a character, plain or behind a backslash, or a 16-bit unit in hex. -/
inductive Piece where
  | char (c : Char)
  | unit (n : Nat)
  deriving DecidableEq, Repr

/-- A string as written, up to its closing quote or to where it breaks off. -/
structure Token where
  pieces : List Piece
  stop : Option Break
  deriving DecidableEq, Repr

/-- A text as written.  A list or an object ends with its bracket or with a break. -/
inductive Tree where
  | null
  | bool (b : Bool)
  | number (n : Numeral)
  | text (t : Token)
  | list (items : List Tree) (stop : Option Break)
  | object (members : List (Token × Tree)) (stop : Option Break)
  | broken (why : Break)
  deriving Repr, Inhabited

/-- A whole text: its value, and whether anything but white space follows it. -/
structure Document where
  root : Tree
  trailing : Bool

/-! ### Strings -/

/-- Whether the unit `n` is the first half of a surrogate pair. -/
def isLeading (n : Nat) : Bool := 0xD800 ≤ n && n ≤ 0xDBFF

/-- Whether the unit `n` is the second half of a surrogate pair. -/
def isTrailing (n : Nat) : Bool := 0xDC00 ≤ n && n ≤ 0xDFFF

/-- The character of a surrogate pair `leading`, `trailing`. -/
def pairChar (leading trailing : Nat) : Char :=
  Char.ofNat (0x10000 + (leading - 0xD800) * 0x400 + (trailing - 0xDC00))

/-- The fault of a leading surrogate that no other piece follows. -/
def cutAfterLeading : Option Break → Fault
  | some .stringCut => .endOfText .string
  | some .hexWrong => .invalidEscape
  | _ => .cutSurrogate

/-- The characters that pieces spell.  Surrogates have to come in pairs. -/
def spell : List Piece → Option Break → Except Fault (List Char)
  | [], none => .ok []
  | [], some b => .error b.built
  | .char c :: ps, stop => (c :: ·) <$> spell ps stop
  | .unit n :: ps, stop =>
    if isTrailing n then .error .loneSurrogate
    else if isLeading n then
      match ps with
      | .unit m :: ps' =>
        if isTrailing m then (pairChar n m :: ·) <$> spell ps' stop else .error .loneSurrogate
      | .char _ :: _ => .error .cutSurrogate
      | [] => .error (cutAfterLeading stop)
    else (Char.ofNat n :: ·) <$> spell ps stop

/-- The text of a string `t`. -/
def Token.read (t : Token) : Except Fault String :=
  String.ofList <$> spell t.pieces t.stop

/-- Passes over a part that ends with its bracket or quote. -/
def skipTo (stop : Option Break) : Except Fault Unit :=
  match stop with
  | none => .ok ()
  | some b => .error b.skipped

/-- Reaches the bracket that ends a part. -/
def close (stop : Option Break) : Except Fault Unit :=
  match stop with
  | none => .ok ()
  | some b => .error b.built

/-! ### Values of trees -/

/-- How many brackets may be open at once. -/
def nestingLimit : Nat := 127

/-- Refuses one bracket more than `nestingLimit`; the number of those already `opened` is given. -/
def checkDepth (opened : Nat) : Except Fault Unit :=
  if nestingLimit ≤ opened then .error .tooDeep else .ok ()

/-- The number of a numeral `n`. -/
def Numeral.read (n : Numeral) : Except Fault Number :=
  match n.number? with
  | some x => .ok x
  | none => .error .numberOutOfRange

namespace Tree

mutual

/-- The value of a tree inside the number `opened` of open brackets. -/
def value (opened : Nat) : Tree → Except Fault Value
  | null => .ok .null
  | bool b => .ok (.bool b)
  | number n => .number <$> n.read
  | text t => .text <$> t.read
  | list items stop => do
    checkDepth opened
    let vs ← itemValues (opened + 1) items
    close stop
    return .array vs
  | object members stop => do
    checkDepth opened
    let ms ← memberValues (opened + 1) members
    close stop
    return .object ms
  | broken b => .error b.built

/-- The values of the items of a list. -/
def itemValues (opened : Nat) : List Tree → Except Fault (List Value)
  | [] => .ok []
  | t :: ts => do
    let v ← value opened t
    let vs ← itemValues opened ts
    return v :: vs

/-- The values of the members of an object. -/
def memberValues (opened : Nat) : List (Token × Tree) → Except Fault (List (String × Value))
  | [] => .ok []
  | (k, t) :: ms => do
    let key ← k.read
    let v ← value opened t
    let rest ← memberValues opened ms
    return (key, v) :: rest

end

mutual

/-- Passes over a tree that nobody asks for. -/
def skip : Tree → Except Fault Unit
  | list items stop => do
    skipItems items
    skipTo stop
  | object members stop => do
    skipMembers members
    skipTo stop
  | text t => skipTo t.stop
  | broken b => .error b.skipped
  | null | bool _ | number _ => .ok ()

/-- Passes over the items of a list. -/
def skipItems : List Tree → Except Fault Unit
  | [] => .ok ()
  | t :: ts => do
    skip t
    skipItems ts

/-- Passes over the members of an object. -/
def skipMembers : List (Token × Tree) → Except Fault Unit
  | [] => .ok ()
  | (k, t) :: ms => do
    skipTo k.stop
    skip t
    skipMembers ms

end

end Tree

end DeckKeywords.Json
