/-
DeckKeywords/Toml/Scalar.lean

Values that are written without quotes: booleans, numbers, dates and times.
Each reader here takes a whole word and says what it stands for, if anything.
-/
import DeckKeywords.Text.Positional
import DeckKeywords.Text.Split
import DeckKeywords.Toml.Node

namespace DeckKeywords.Toml

/-! ### Digits -/

/-- Digits in a base: at least one. -/
def digits? (base : Nat) (cs : List Char) : Option (List Nat) :=
  if cs.isEmpty then none else cs.mapM (Text.digitValue? base)

/-- Digits in a base, with single underscores between them. -/
def spacedDigits? (base : Nat) (cs : List Char) : Option (List Nat) :=
  List.flatten <$> (Text.splitAll '_' cs).mapM (digits? base)

/-- What may stand in front of the digits of a number. -/
structure Sign where
  negative : Bool
  spaced : Bool
  deriving DecidableEq, Repr

/-- The sign of a number and what follows it.  A sign may have an underscore behind it. -/
def signed (cs : List Char) : Sign × List Char :=
  let behind (negative : Bool) (cs : List Char) : Sign × List Char :=
    match cs with
    | '_' :: cs => (⟨negative, true⟩, cs)
    | cs => (⟨negative, false⟩, cs)
  match cs with
  | '-' :: cs => behind true cs
  | '+' :: cs => behind false cs
  | cs => (⟨false, false⟩, cs)

/-- Decimal digits as they stand before a point: zero, or digits that do not start with it, unless
the sign is spaced. -/
def wholeDigits? (sign : Sign) (cs : List Char) : Option (List Nat) :=
  match spacedDigits? 10 cs with
  | some (0 :: _ :: _) => if sign.spaced then spacedDigits? 10 cs else none
  | ds => ds

/-! ### Numbers -/

/-- A whole number in the base that its first two characters name.  Without digits it has no
value. -/
def basedInteger? : List Char → Option Scalar
  | '0' :: 'x' :: cs => natural 16 cs
  | '0' :: 'o' :: cs => natural 8 cs
  | '0' :: 'b' :: cs => natural 2 cs
  | _ => none
where
  natural (base : Nat) (cs : List Char) : Option Scalar :=
    if cs.isEmpty then some .valueless
    else (spacedDigits? base cs).map fun ds => .integer (Text.ofDigits base ds : Int)

/-- Whether each part between underscores starts with a digit, and each but the last one ends with
a digit; those of base sixteen count. -/
def edgesFit : List (List Char) → Bool
  | [] => false
  | [last] => (last.head?.bind Text.hexValue?).isSome
  | part :: parts =>
    (part.head?.bind Text.hexValue?).isSome && (part.getLast?.bind Text.hexValue?).isSome
      && edgesFit parts

/-- Whether the first part is a decimal number without zeros in front. -/
def startsPlainly (parts : List (List Char)) : Bool :=
  match parts with
  | ['0'] :: rest => rest.isEmpty
  | ('0' :: _) :: _ => false
  | part :: _ => (digits? 10 part).isSome
  | [] => false

/-- A decimal whole number behind its sign.  Behind an underscore only the edges of parts are looked
at; a number with anything but digits has no value. -/
def integer? (sign : Sign) (cs : List Char) : Option Scalar :=
  let parts := Text.splitAll '_' cs
  if edgesFit parts && (sign.spaced || startsPlainly parts) then
    match digits? 10 parts.flatten with
    | some ds =>
      let n : Int := Text.ofDigits 10 ds
      some (.integer (if sign.negative then -n else n))
    | none => some .valueless
  else none

/-- The two parts around the first `e`, in either case; the second one may be missing. -/
def splitExponent (cs : List Char) : List Char × Option (List Char) :=
  match cs.span fun c => c ≠ 'e' && c ≠ 'E' with
  | (mantissa, []) => (mantissa, none)
  | (mantissa, _ :: exponent) => (mantissa, some exponent)

/-- The digits behind the point; none if there is no point. -/
def fraction? : Option (List Char) → Option (List Nat)
  | none => some []
  | some cs => spacedDigits? 10 cs

/-- The power of ten; zero if it is not given. -/
def exponent? : Option (List Char) → Option Int
  | none => some 0
  | some cs => do
    let (sign, cs) := signed cs
    let ds ← spacedDigits? 10 cs
    let n : Int := Text.ofDigits 10 ds
    if sign.spaced then none else some (if sign.negative then -n else n)

/-- A number with a point or a power of ten, behind its sign. -/
def real? (sign : Sign) (cs : List Char) : Option Scalar := do
  let (mantissa, power) := splitExponent cs
  let (whole, fraction) :=
    match Text.splitFirst '.' mantissa with
    | some (whole, fraction) => (whole, some fraction)
    | none => (mantissa, none)
  let whole ← wholeDigits? sign whole
  let fraction ← fraction? fraction
  let power ← exponent? power
  return .real sign.negative (Text.ofDigits 10 (whole ++ fraction)) (power - fraction.length)

/-- Whether a number is written with a point or a power of ten. -/
def isReal (cs : List Char) : Bool := cs.any ['.', 'e', 'E'].contains

/-- Infinity and the value that is no number, behind a sign. -/
def special? (negative : Bool) (cs : List Char) : Option Scalar :=
  if cs = ['i', 'n', 'f'] then some (.infinity negative)
  else if cs = ['n', 'a', 'n'] then some .notANumber
  else none

/-! ### Dates and times -/

/-- A number of exactly so many digits, and what follows it. -/
def fixed (count : Nat) (cs : List Char) : Option (Nat × List Char) := do
  let front := cs.take count
  if front.length < count then none
  else
    let ds ← front.mapM (Text.digitValue? 10)
    return (Text.ofDigits 10 ds, cs.drop count)

/-- What follows a given character. -/
def after (c : Char) : List Char → Option (List Char)
  | [] => none
  | d :: cs => if d = c then some cs else none

/-- Whether a year has a 29th of February. -/
def isLeapYear (year : Nat) : Bool := year % 4 = 0 && (year % 100 ≠ 0 || year % 400 = 0)

/-- The number of days of a month. -/
def daysIn (year month : Nat) : Nat :=
  if month = 2 then if isLeapYear year then 29 else 28
  else if [4, 6, 9, 11].contains month then 30
  else 31

/-- What follows a date. -/
def afterDate? (cs : List Char) : Option (List Char) := do
  let (year, cs) ← fixed 4 cs
  let cs ← after '-' cs
  let (month, cs) ← fixed 2 cs
  let cs ← after '-' cs
  let (day, cs) ← fixed 2 cs
  if 1 ≤ month && month ≤ 12 && 1 ≤ day && day ≤ daysIn year month then some cs else none

/-- What follows the digits of a fraction of a second, if there is one. -/
def afterFraction? : List Char → Option (List Char)
  | '.' :: cs =>
    let rest := cs.dropWhile Char.isDigit
    if rest.length < cs.length then some rest else none
  | cs => some cs

/-- What follows the seconds, if there are any; the sixtieth is a leap second. -/
def afterSeconds? : List Char → Option (List Char)
  | ':' :: cs => do
    let (second, cs) ← fixed 2 cs
    if second ≤ 60 then afterFraction? cs else none
  | cs => some cs

/-- What follows hours and minutes. -/
def afterMinutes? (cs : List Char) : Option (List Char) := do
  let (hour, cs) ← fixed 2 cs
  let cs ← after ':' cs
  let (minute, cs) ← fixed 2 cs
  if hour ≤ 23 && minute ≤ 59 then some cs else none

/-- What follows a time of day. -/
def afterTime? (cs : List Char) : Option (List Char) := afterMinutes? cs >>= afterSeconds?

/-- What follows a distance from universal time, if one is given. -/
def afterOffset? : List Char → Option (List Char)
  | 'Z' :: cs | 'z' :: cs => some cs
  | '+' :: cs | '-' :: cs => afterMinutes? cs
  | cs => some cs

/-- Whether the characters are a date, a time of day, or both with a mark between them. -/
def isTime (cs : List Char) : Bool :=
  match afterDate? cs with
  | some [] => true
  | some (mark :: rest) =>
    [' ', 'T', 't'].contains mark && (afterTime? rest >>= afterOffset?) == some []
  | none => afterTime? cs == some []

/-! ### Words -/

/-- What a number stands for. -/
def number? (cs : List Char) : Option Scalar :=
  let (sign, rest) := signed cs
  let special := if sign.spaced then none else special? sign.negative rest
  basedInteger? cs <|> special <|> if isReal rest then real? sign rest else integer? sign rest

/-- What a word without quotes stands for. -/
def Scalar.ofWord? (cs : List Char) : Option Scalar :=
  if cs = ['t', 'r', 'u', 'e'] then some (.boolean true)
  else if cs = ['f', 'a', 'l', 's', 'e'] then some (.boolean false)
  else if isTime cs then some (.time (String.ofList cs))
  else number? cs

/-- The characters that end a word. -/
def wordEnds : List Char :=
  ['=', ',', '[', ']', '\x7b', '\x7d', ' ', '\t', '#', '\r', '\n']

/-- Whether a character may stand in a word. -/
def isWordChar (c : Char) : Bool := !wordEnds.contains c

/-- A word and what follows it.  A date takes a time of day behind a space along. -/
def takeWord (cs : List Char) : List Char × List Char :=
  let (word, rest) := cs.span isWordChar
  match rest with
  | ' ' :: c :: more =>
    if afterDate? word == some [] && c.isDigit then
      let (time, rest) := (c :: more).span isWordChar
      (word ++ ' ' :: time, rest)
    else (word, rest)
  | _ => (word, rest)

end DeckKeywords.Toml
