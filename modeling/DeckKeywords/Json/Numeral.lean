/-
DeckKeywords/Json/Numeral.lean

Numbers as they are written in JSON, and what they stand for.  A number
without fraction and exponent that fits 64 bits is an integer; minus zero and
all other numbers are floating point, and one that is too large for that is no
number at all.

A floating-point value is formed in two steps: the leading digits that fit an
unsigned 64-bit word make a significand, which is then scaled by one power of
ten.
-/
import DeckKeywords.Decimal.Shortest
import DeckKeywords.Text.Positional

namespace DeckKeywords.Json

/-- A number as written: sign, digits before the point, digits after it, power of ten. -/
structure Numeral where
  negative : Bool
  whole : List Nat
  fraction : List Nat
  exponent : Option Int
  deriving DecidableEq, Repr, Inhabited

/-- A number as read. -/
inductive Number where
  | integer (i : Int)
  | real (n : Numeral)
  deriving DecidableEq, Repr, Inhabited

/-- One more than the largest unsigned 64-bit word. -/
def wordLimit : Nat := Decimal.twoTo 64

/-- Collects digits into a word; from the first one that does not fit on, they only count. -/
def collectWhole (ds : List Nat) : Nat × Nat :=
  ds.foldl (fun (n, dropped) d =>
    if dropped = 0 && 10 * n + d < wordLimit then (10 * n + d, 0) else (n, dropped + 1)) (0, 0)

/-- Collects digits behind the point into the word until one does not fit; counts those that did. -/
def collectFraction (n : Nat) : List Nat → Nat × Nat
  | [] => (n, 0)
  | d :: ds =>
    if 10 * n + d < wordLimit then
      let (m, taken) := collectFraction (10 * n + d) ds
      (m, taken + 1)
    else (n, 0)

/-- The largest power of ten in one step of scaling. -/
def largestPower : Nat := 308

/-- A power of ten as a floating-point number. -/
def powerOfTen (n : Nat) : Float := Float.ofScientific 1 false n

/-- The word times a power of ten, or nothing when that is infinite. -/
def scale (significand : Nat) (power : Int) : Option Float :=
  let x := (UInt64.ofNat significand).toFloat
  if 0 ≤ power then
    if power ≤ largestPower then
      let y := x * powerOfTen power.toNat
      if y.isInf then none else some y
    else if significand = 0 then some x
    else none
  else
    let down := (-power).toNat
    if down ≤ largestPower then some (x / powerOfTen down)
    else if down ≤ 2 * largestPower then
      some (x / powerOfTen largestPower / powerOfTen (down - largestPower))
    else some 0.0

namespace Numeral

/-- The floating-point value, unless it is out of range. -/
def toFloat? (n : Numeral) : Option Float :=
  let (whole, dropped) := collectWhole n.whole
  let (significand, taken) := collectFraction whole n.fraction
  let power := (dropped : Int) - taken + n.exponent.getD 0
  (scale significand power).map fun x => if n.negative then -x else x

/-- The integer that is written without point and exponent, if it fits 64 bits. -/
def integer? (n : Numeral) : Option Int :=
  if n.fraction.isEmpty && n.exponent.isNone then
    let size := Text.ofDigits 10 n.whole
    if n.negative then
      if 0 < size && size ≤ Decimal.twoTo 63 then some (-(size : Int)) else none
    else if size < wordLimit then some (size : Int) else none
  else none

/-- What the numeral stands for, unless it is out of range. -/
def number? (n : Numeral) : Option Number :=
  match n.integer? with
  | some i => some (.integer i)
  | none => if n.toFloat?.isSome then some (.real n) else none

/-- The written form of the floating-point value. -/
def realText (n : Numeral) : String := (n.toFloat?.map Decimal.floatText).getD ""

end Numeral

end DeckKeywords.Json
