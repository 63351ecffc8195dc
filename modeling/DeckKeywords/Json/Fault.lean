/-
DeckKeywords/Json/Fault.lean

Why a JSON text is refused.  A fault is of one of three kinds: the text ends
too early, it is not JSON, or it is JSON of another shape than the one asked for.
-/
import DeckKeywords.Json.Numeral
import DeckKeywords.Text.Quoted

namespace DeckKeywords.Json

/-- What the text was in the middle of when it ended. -/
inductive Part where
  | value | list | object | string
  deriving DecidableEq, Repr

/-- What stands where something else was expected. -/
inductive Found where
  | null
  | boolean (b : Bool)
  | integer (i : Int)
  | real (n : Numeral)
  | text (s : String)
  | sequence
  | mapping
  deriving DecidableEq, Repr

/-- Why a text is refused. -/
inductive Fault where
  | endOfText (part : Part)
  | valueExpected
  | keyNotText
  | trailingComma
  | colonExpected
  | objectSeparatorExpected
  | listSeparatorExpected
  | unknownLiteral
  | invalidNumber
  | numberOutOfRange
  | invalidEscape
  | cutSurrogate
  | loneSurrogate
  | controlCharacter
  | trailingCharacters
  | tooDeep
  | wrongType (found : Found) (expected : String)
  | wrongValue (found : Found) (expected : String)
  | duplicateField (name : String)
  | noVariant (name : String)
  deriving DecidableEq, Repr

/-- The three kinds of fault. -/
inductive Category where
  | endOfText | syntactic | data
  deriving DecidableEq, Repr

namespace Fault

/-- The kind of a fault. -/
def category : Fault → Category
  | endOfText _ => .endOfText
  | wrongType .. | wrongValue .. | duplicateField _ | noVariant _ => .data
  | _ => .syntactic

end Fault

/-- How messages name a part of a text. -/
def Part.message : Part → String
  | value => "a value"
  | list => "a list"
  | object => "an object"
  | string => "a string"

/-- How messages name what was found. -/
def Found.message : Found → String
  | null => "null"
  | boolean b => "boolean `" ++ (if b then "true" else "false") ++ "`"
  | integer i => "integer `" ++ toString i ++ "`"
  | real n => "floating point `" ++ n.realText ++ "`"
  | text s => "string " ++ Text.quoted s
  | sequence => "sequence"
  | mapping => "map"

/-- The text of a fault. -/
def Fault.message : Fault → String
  | endOfText part => "EOF while parsing " ++ part.message
  | valueExpected => "expected value"
  | keyNotText => "key must be a string"
  | trailingComma => "trailing comma"
  | colonExpected => "expected `:`"
  | objectSeparatorExpected => "expected `,` or `\x7d`"
  | listSeparatorExpected => "expected `,` or `]`"
  | unknownLiteral => "expected ident"
  | invalidNumber => "invalid number"
  | numberOutOfRange => "number out of range"
  | invalidEscape => "invalid escape"
  | cutSurrogate => "unexpected end of hex escape"
  | loneSurrogate => "lone leading surrogate in hex escape"
  | controlCharacter =>
    "control character (\\u0000-\\u001F) found while parsing a string"
  | trailingCharacters => "trailing characters"
  | tooDeep => "recursion limit exceeded"
  | wrongType found expected =>
    "invalid type: " ++ found.message ++ ", expected " ++ expected
  | wrongValue found expected =>
    "invalid value: " ++ found.message ++ ", expected " ++ expected
  | duplicateField name => "duplicate field `" ++ name ++ "`"
  | noVariant name => "data did not match any variant of untagged enum " ++ name

end DeckKeywords.Json
