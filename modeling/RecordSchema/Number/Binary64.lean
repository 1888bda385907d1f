import RecordSchema.Number.Power

/-!
# Binary numbers of 64 bits

A number of the value language is a double of the usual binary format. Finite numbers are kept
exactly, as a sign, an integer mantissa and a power of two, so that arithmetic and conversion are
integer arithmetic followed by one rounding: to the nearest number of the format, a tie going to the
even mantissa. `ofRatio` is that rounding, and every operation here ends with it.
-/

namespace RecordSchema

/-- The pairs of mantissa and exponent that the format has, each number written in one way: the
mantissa is below `2 ^ 53`, and at least `2 ^ 52` unless the exponent is the smallest one. -/
def Binary64.Canonical (mantissa : Nat) (exponent : Int) : Prop :=
  mantissa < 0x20000000000000 ∧ -1074 ≤ exponent ∧ exponent ≤ 971 ∧
    (exponent = -1074 ∨ 0x10000000000000 ≤ mantissa)

instance (mantissa : Nat) (exponent : Int) : Decidable (Binary64.Canonical mantissa exponent) :=
  inferInstanceAs (Decidable (_ ∧ _ ∧ _ ∧ _))

/-- A double. The finite number is `mantissa * 2 ^ exponent`, negated if `negative`; the two zeros
differ in their sign only. -/
inductive Binary64 where
  | nan
  | infinity (negative : Bool)
  | finite (negative : Bool) (mantissa : Nat) (exponent : Int)
      (canonical : Binary64.Canonical mantissa exponent)
deriving DecidableEq

namespace Binary64

/-- The zero of the given sign. -/
def zero (negative : Bool) : Binary64 :=
  .finite negative 0 (-1074) (by decide)

/-- The number with this mantissa and exponent, or the infinity if the format has no such pair. -/
def make (negative : Bool) (mantissa : Nat) (exponent : Int) : Binary64 :=
  if h : Canonical mantissa exponent then .finite negative mantissa exponent h
  else .infinity negative

/-- The integer nearest to `numerator / denominator`; a tie goes to the even one. -/
def nearest (numerator denominator : Nat) : Nat :=
  let quotient := numerator / denominator
  let remainder := numerator % denominator
  if 2 * remainder < denominator ∨ (2 * remainder = denominator ∧ quotient % 2 = 0) then quotient
  else quotient + 1

/-- The fraction `numerator / denominator` divided by `2 ^ exponent`, as a fraction again. -/
def unscale (numerator denominator : Nat) (exponent : Int) : Nat × Nat :=
  if 0 ≤ exponent then (numerator, denominator * powerOfTwo exponent.toNat)
  else (numerator * powerOfTwo (-exponent).toNat, denominator)

/-- The exponent of the largest power of two that is at most `numerator / denominator`. -/
def binaryOrder (numerator denominator : Nat) : Int :=
  let guess : Int := (numerator.log2 : Int) - denominator.log2
  let (n, d) := unscale numerator denominator guess
  if n < d then guess - 1 else guess

/-- The double nearest to `numerator / denominator` with the given sign. -/
def ofRatio (negative : Bool) (numerator denominator : Nat) : Binary64 :=
  if numerator = 0 ∨ denominator = 0 then zero negative
  else
    let exponent := max (binaryOrder numerator denominator - 52) (-1074)
    let (n, d) := unscale numerator denominator exponent
    let mantissa := nearest n d
    -- Rounding up can reach the next power of two, which has a bit more.
    if mantissa = 0x20000000000000 then make negative 0x10000000000000 (exponent + 1)
    else make negative mantissa exponent

/-- The double nearest to `mantissa * 2 ^ exponent`. -/
def ofScaled (negative : Bool) (mantissa : Nat) (exponent : Int) : Binary64 :=
  if 0 ≤ exponent then ofRatio negative (mantissa * powerOfTwo exponent.toNat) 1
  else ofRatio negative mantissa (powerOfTwo (-exponent).toNat)

/-- The double nearest to an integer. -/
def ofInt (n : Int) : Binary64 :=
  ofRatio (n < 0) n.natAbs 1

/-- The double nearest to `digits * 10 ^ exponent`. -/
def ofDecimal (negative : Bool) (digits : Nat) (exponent : Int) : Binary64 :=
  if 0 ≤ exponent then ofRatio negative (digits * powerOfTen exponent.toNat) 1
  else ofRatio negative digits (powerOfTen (-exponent).toNat)

/-- The double with these 64 bits: sign, eleven bits of exponent, 52 bits of mantissa. -/
def ofBits (bits : UInt64) : Binary64 :=
  let n := bits.toNat
  let negative := n / 0x8000000000000000 % 2 == 1
  let biased : Nat := n / 0x10000000000000 % 0x800
  let fraction : Nat := n % 0x10000000000000
  if biased = 2047 then if fraction = 0 then .infinity negative else .nan
  else if biased = 0 then make negative fraction (-1074)
  else make negative (0x10000000000000 + fraction) ((biased : Int) - 1075)

/-- The number is neither infinite nor `nan`. -/
def isFinite : Binary64 → Bool
  | .finite .. => true
  | _ => false

/-- The number is one of the two zeros. -/
def isZero : Binary64 → Bool
  | .finite _ mantissa _ _ => mantissa == 0
  | _ => false

/-- Equality of numbers: the zeros are equal, and `nan` is equal to nothing. -/
def eq : Binary64 → Binary64 → Bool
  | .nan, _ => false
  | _, .nan => false
  | x, y => (x.isZero && y.isZero) || x == y

/-- The product, rounded. -/
def mul : Binary64 → Binary64 → Binary64
  | .finite s m e _, .finite t n f _ => ofScaled (s != t) (m * n) (e + f)
  | .infinity s, .infinity t => .infinity (s != t)
  | .infinity s, .finite t n _ _ => if n = 0 then .nan else .infinity (s != t)
  | .finite s m _ _, .infinity t => if m = 0 then .nan else .infinity (s != t)
  | _, _ => .nan

/-- The quotient, rounded. -/
def div : Binary64 → Binary64 → Binary64
  | .finite s m e _, .finite t n f _ =>
      if n = 0 then if m = 0 then .nan else .infinity (s != t)
      else if e ≤ f then ofRatio (s != t) m (n * powerOfTwo (f - e).toNat)
      else ofRatio (s != t) (m * powerOfTwo (e - f).toNat) n
  | .infinity s, .finite t _ _ _ => .infinity (s != t)
  | .finite s _ _ _, .infinity t => zero (s != t)
  | _, _ => .nan

/-- The integer that the number is, if it is one. -/
def toInt? : Binary64 → Option Int
  | .finite negative mantissa exponent _ =>
      let magnitude? : Option Nat :=
        if 0 ≤ exponent then some (mantissa * powerOfTwo exponent.toNat)
        else
          let unit := powerOfTwo (-exponent).toNat
          if mantissa % unit = 0 then some (mantissa / unit) else none
      magnitude?.map fun magnitude ↦ if negative then -magnitude else magnitude
  | _ => none

example : ofRatio false 1 10 = ofBits 0x3fb999999999999a := by decide +kernel

end Binary64

end RecordSchema
