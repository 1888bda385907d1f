import RecordSchema.Number.Binary64

/-!
# Reading decimal literals

A decimal literal becomes a number in one of two ways. `Binary64.nearestDecimal` rounds its exact
value once. `Binary64.scaledDecimal` rounds the leading digits, rounds the power of ten and rounds
their product or quotient, as readers do that have no more than one word of digits; it differs from
the first in the last place for some long literals. It has no answer where the result would be
infinite.
-/

namespace RecordSchema.Binary64

/-- The number nearest to `digits * 10 ^ exponent`. Far outside the range of the format the answer
is known without computing the power. -/
def nearestDecimal (negative : Bool) (digits : Nat) (exponent : Int) : Binary64 :=
  let order := exponent + (Nat.toDigits 10 digits).length
  if digits = 0 ∨ order < -400 then zero negative
  else if 400 < order then .infinity negative
  else ofDecimal negative digits exponent

/-- The power `10 ^ exponent`, rounded. -/
def roundedPower (exponent : Nat) : Binary64 :=
  ofDecimal false 1 exponent

/-- The greatest exponent for which the power of ten is finite. -/
def maxPower : Nat := 308

/-- The significand scaled by `10 ^ exponent`. An exponent below the least one that the powers of
ten reach is applied in two steps. -/
def scaledDecimal (negative : Bool) (significand : Nat) (exponent : Int) : Option Binary64 :=
  let start := ofRatio negative significand 1
  if 0 ≤ exponent then
    if exponent ≤ maxPower then
      let scaled := mul start (roundedPower exponent.toNat)
      if scaled.isFinite then some scaled else none
    else if significand = 0 then some start
    else none
  else
    let power := (-exponent).toNat
    if power ≤ maxPower then some (div start (roundedPower power))
    else if power ≤ 2 * maxPower then
      some (div (div start (roundedPower maxPower)) (roundedPower (power - maxPower)))
    else some (zero negative)

example : scaledDecimal false 45035996273704955 (-1) = some (ofInt 4503599627370495) := by
  decide +kernel

end RecordSchema.Binary64
