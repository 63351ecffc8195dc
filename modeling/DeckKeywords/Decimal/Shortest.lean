/-
DeckKeywords/Decimal/Shortest.lean

The shortest decimal digits that read back as a given binary floating-point
number.  A finite positive number is `m · 2^q`; the reals that round to it form
an interval around it, ends included when `m` is even.  For one digit, two
digits, … the two neighbours of the number on that decimal grid are tried, and
the first grid with a neighbour inside the interval wins; of two neighbours the
nearer one, and the even one at equal distance.
-/
import DeckKeywords.Decimal.Power

namespace DeckKeywords.Decimal

/-- A binary number `mantissa · 2^exponent`, with half the distance to its lower neighbour as
`lowerGap` quarters and to its upper neighbour as two quarters of a unit in the last place. -/
structure Binary where
  mantissa : Nat
  exponent : Int
  lowerGap : Nat

/-- The parts of a finite positive number from its 64 `bits`. -/
def Binary.ofBits (bits : Nat) : Binary :=
  let fraction : Nat := bits % twoTo 52
  let biased : Nat := bits / twoTo 52 % twoTo 11
  if biased = 0 then ⟨fraction, -1074, 2⟩
  else ⟨twoTo 52 + fraction, (biased : Int) - 1075, if fraction = 0 && 1 < biased then 1 else 2⟩

/-- The number times `4 · 10^(-place)`, and its two half distances likewise, over one
denominator. -/
structure Scaled where
  value : Nat
  below : Nat
  above : Nat
  unit : Nat

/-- The number on the grid whose step is `10^place`. -/
def Binary.scaled (b : Binary) (place : Int) : Scaled :=
  let up := twoTo b.exponent.toNat * tenTo (-place).toNat
  ⟨4 * b.mantissa * up, b.lowerGap * up, 2 * up,
    4 * (twoTo (-b.exponent).toNat * tenTo place.toNat)⟩

/-- The grid point that reads back as the number, if one of its two neighbours does. -/
def Binary.onGrid? (b : Binary) (place : Int) : Option Nat :=
  let s := b.scaled place
  let low := s.value / s.unit
  let reads (n : Nat) : Bool :=
    let point := n * s.unit
    if b.mantissa % 2 = 0 then s.value - s.below ≤ point && point ≤ s.value + s.above
    else s.value - s.below < point && point < s.value + s.above
  let down := s.value - low * s.unit
  let up := (low + 1) * s.unit - s.value
  match reads low && low != 0, reads (low + 1) with
  | true, true => some (if down < up || (down == up && low % 2 == 0) then low else low + 1)
  | true, false => some low
  | false, true => some (low + 1)
  | false, false => none

/-- The power of ten of the first digit of a positive number `b`. -/
def Binary.magnitude (b : Binary) : Int :=
  let s := b.scaled 0
  if s.unit ≤ s.value then ((Nat.toDigits 10 (s.value / s.unit)).length : Int) - 1
  else
    match (List.range 400).find? fun j => s.unit ≤ s.value * tenTo (j + 1) with
    | some j => -(j + 1 : Int)
    | none => 0

/-- Digits and the power of ten of the first one. -/
structure Digits where
  digits : List Char
  exponent : Int

/-- Takes the zeros off the end of `ds`. -/
def dropTrailingZeros (ds : List Char) : List Char :=
  (ds.reverse.dropWhile (· == '0')).reverse

/-- The shortest digits of a finite positive number `b`. -/
def Binary.shortest (b : Binary) : Digits :=
  let magnitude := b.magnitude
  match (List.range 17).findSome? fun (k : Nat) => (b.onGrid? (magnitude - k)).map (·, k) with
  | some (n, k) =>
    let ds := Nat.toDigits 10 n
    ⟨dropTrailingZeros ds, magnitude - k + ds.length - 1⟩
  | none => ⟨['0'], 0⟩

/-- The decisions of the written form: powers of ten from `-5` to `15` are written positionally
with at least one digit behind the point, all others with an exponent that carries its sign. -/
def Digits.text (d : Digits) : String :=
  let count : Int := d.digits.length
  if -5 ≤ d.exponent && d.exponent ≤ 15 then
    if d.exponent < 0 then
      "0." ++ String.ofList (List.replicate (-d.exponent - 1).toNat '0' ++ d.digits)
    else if count ≤ d.exponent + 1 then
      String.ofList (d.digits ++ List.replicate (d.exponent + 1 - count).toNat '0') ++ ".0"
    else
      let whole := (d.exponent + 1).toNat
      String.ofList (d.digits.take whole) ++ "." ++ String.ofList (d.digits.drop whole)
  else
    let mantissa :=
      match d.digits with
      | [c] => String.ofList [c]
      | c :: cs => String.ofList (c :: '.' :: cs)
      | [] => ""
    let sign := if d.exponent < 0 then "-" else "+"
    mantissa ++ "e" ++ sign ++ String.ofList (Nat.toDigits 10 d.exponent.natAbs)

/-- The written form of a finite number `x`. -/
def floatText (x : Float) : String :=
  let bits := x.toBits.toNat
  let sign := if twoTo 63 ≤ bits then "-" else ""
  let size := bits % twoTo 63
  sign ++ (if size = 0 then "0.0" else (Binary.ofBits size).shortest.text)

end DeckKeywords.Decimal
