/-
DeckKeywords/Decimal/Range.lean

Which decimal numbers have a finite floating-point value.
-/
import DeckKeywords.Decimal.Power

namespace DeckKeywords.Decimal

/-- The least number that rounds to infinity: it lies halfway between the largest finite double and
the power of two after it. -/
def roundingLimit : Nat := twoTo 1024 - twoTo 970

/-- The number of decimal digits of `roundingLimit`. -/
def limitDigits : Nat := 309

/-- Whether a whole number `significand` times a `power` of ten rounds to a finite double.  A power
beyond the digits of the limit decides alone, so no large power is ever formed. -/
def roundsToFinite (significand : Nat) (power : Int) : Bool :=
  if significand = 0 then true
  else if 0 ≤ power then
    power < limitDigits && significand * tenTo power.toNat < roundingLimit
  else
    let digits := (Nat.toDigits 10 significand).length
    let down := (-power).toNat
    digits ≤ down || significand < roundingLimit * tenTo down

end DeckKeywords.Decimal
