import RecordSchema.Number.Binary64

/-!
# The fewest decimal digits that read back

`Binary64.shortest` finds, for a finite number other than zero, the decimal with the fewest digits
among those that round to it, and the nearest of these; `Tie` says which one it is when two are
equally near. The reals that round to a number form an interval between the midpoints to its
neighbours, which belong to it when its mantissa is even. On a decimal grid only the two points next
to the number need a test: if any point of the grid lies in the interval, one of these two does.
-/

namespace RecordSchema

/-- The decimal number `digits * 10 ^ exponent`. -/
structure Decimal where
  digits : Nat
  exponent : Int
deriving DecidableEq

namespace Decimal

/-- The characters of the digits, without leading zeros. -/
def digitChars (d : Decimal) : List Char :=
  Nat.toDigits 10 d.digits

/-- The exponent of the largest power of ten that is at most the number, if it is not zero. -/
def order (d : Decimal) : Int :=
  d.exponent + d.digitChars.length - 1

end Decimal

namespace Binary64

/-- The interval of the reals that round to `mantissa * 2 ^ exponent`, in quarters of its unit in
the last place: the lower end, the number and the upper end. -/
def roundingInterval (mantissa : Nat) (exponent : Int) : Nat × Nat × Nat :=
  let below := if mantissa = 0x10000000000000 ∧ exponent ≠ -1074 then 1 else 2
  (4 * mantissa - below, 4 * mantissa, 4 * mantissa + 2)

/-- A decimal grid seen from the quarters of a unit in the last place: `quarters` of them are
`quarters * quarterWeight / pointWeight` steps of the grid. -/
structure GridScale where
  quarterWeight : Nat
  pointWeight : Nat

/-- The scale between the quarters of `2 ^ exponent` and the grid with step `10 ^ power`. -/
def gridScale (exponent power : Int) : GridScale where
  quarterWeight := powerOfTwo (exponent - 2).toNat * powerOfTen (-power).toNat
  pointWeight := powerOfTwo (2 - exponent).toNat * powerOfTen power.toNat

/-- The point to take when the number is in the middle between two points of a grid. -/
inductive Tie where
  | upper
  | even
deriving DecidableEq

/-- The one of two neighbouring points that is nearest to a number, given by its distances from
them. -/
def Tie.nearer (tie : Tie) (lower fromLower fromUpper : Nat) : Nat :=
  if fromLower < fromUpper then lower
  else if fromUpper < fromLower then lower + 1
  else
    match tie with
    | .upper => lower + 1
    | .even => if lower % 2 = 0 then lower else lower + 1

/-- The point of the grid with step `10 ^ power` that rounds to `mantissa * 2 ^ exponent` and is
nearest to it, as a multiple of the step. -/
def gridPoint? (tie : Tie) (mantissa : Nat) (exponent power : Int) : Option Nat :=
  let (low, center, high) := roundingInterval mantissa exponent
  let scale := gridScale exponent power
  let weigh (quarters : Nat) : Nat := quarters * scale.quarterWeight
  let inside (point : Nat) : Bool :=
    let position := point * scale.pointWeight
    if mantissa % 2 = 0 then weigh low ≤ position && position ≤ weigh high
    else weigh low < position && position < weigh high
  let lower := weigh center / scale.pointWeight
  let upper := lower + 1
  match inside lower, inside upper with
  | true, true =>
      some (tie.nearer lower (weigh center - lower * scale.pointWeight)
        (upper * scale.pointWeight - weigh center))
  | true, false => some lower
  | false, true => some upper
  | false, false => none

/-- A power of ten that is at least the tenth part of the number and at most a hundred times it. -/
def startingPower (mantissa : Nat) (exponent : Int) : Int :=
  let (n, d) := unscale mantissa 1 (-exponent)
  if d ≤ n then (Nat.toDigits 10 (n / d)).length
  else 1 - (Nat.toDigits 10 (d / n)).length

/-- The coarsest grid with a point that rounds to the number, tried from the grid `10 ^ power` on
for as many grids as `steps` says. -/
def searchGrids (tie : Tie) (mantissa : Nat) (exponent : Int) : Nat → Int → Decimal
  | 0, power => ⟨0, power⟩
  | steps + 1, power =>
      match gridPoint? tie mantissa exponent power with
      | some point => ⟨point, power⟩
      | none => searchGrids tie mantissa exponent steps (power - 1)

/-- The shortest decimal that rounds to `mantissa * 2 ^ exponent`. Seventeen digits always suffice,
and the search starts at most two grids too high. -/
def shortest (tie : Tie) (mantissa : Nat) (exponent : Int) : Decimal :=
  searchGrids tie mantissa exponent 20 (startingPower mantissa exponent)

example :
    shortest .even 0x10000000000001 (-2) = ⟨11258999068426242, -1⟩ ∧
      shortest .upper 0x10000000000001 (-2) = ⟨11258999068426243, -1⟩ := by
  decide +kernel

end Binary64

end RecordSchema
