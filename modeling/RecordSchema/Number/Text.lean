import RecordSchema.Number.Shortest

/-!
# Number texts

A finite number is written with the digits of its shortest decimal. `NumberLayout` holds the choices
that are left: which of two equally near decimals is taken, where positional notation ends, whether
a whole number shows a fraction, and whether the sign of zero is written. There are two layouts.
Rendered values are always positional; numbers in JSON show that they are not integers and use an
exponent when they are very large or small.
-/

namespace RecordSchema

/-- How the digits of a decimal are laid out. Orders are powers of ten of the leading digit. -/
structure NumberLayout where
  /-- The decimal to take of two that are equally near. -/
  tie : Binary64.Tie
  /-- The orders that are written without an exponent. -/
  isPositional : Int → Bool
  /-- A whole number ends in `.0`. -/
  showsFraction : Bool
  /-- The negative zero has a sign. -/
  signsZero : Bool

namespace NumberLayout

/-- The layout of numbers in rendered values and of the keys of keyed collections. -/
def value : NumberLayout where
  tie := .upper
  isPositional := fun _ ↦ true
  showsFraction := false
  signsZero := false

/-- The layout of JSON numbers but integers: positional from `0.00001` to below `10 ^ 16`. -/
def json : NumberLayout where
  tie := .even
  isPositional := fun order ↦ -5 ≤ order && order < 16
  showsFraction := true
  signsZero := true

end NumberLayout

namespace Decimal

/-- The digits around the decimal point, without an exponent. -/
def positional (showsFraction : Bool) (d : Decimal) : List Char :=
  let digits := d.digitChars
  if 0 ≤ d.exponent then
    digits ++ List.replicate d.exponent.toNat '0' ++ (if showsFraction then ['.', '0'] else [])
  else
    let places := (-d.exponent).toNat
    if places < digits.length then
      digits.take (digits.length - places) ++ '.' :: digits.drop (digits.length - places)
    else '0' :: '.' :: List.replicate (places - digits.length) '0' ++ digits

/-- One digit, the others after a point, and the order as a signed exponent. -/
def scientific (d : Decimal) : List Char :=
  let mantissa := match d.digitChars with
    | first :: second :: rest => first :: '.' :: second :: rest
    | digits => digits
  let sign := if 0 ≤ d.order then '+' else '-'
  mantissa ++ 'e' :: sign :: Nat.toDigits 10 d.order.natAbs

/-- The characters of the decimal in a layout. -/
def text (layout : NumberLayout) (d : Decimal) : List Char :=
  if layout.isPositional d.order then d.positional layout.showsFraction else d.scientific

end Decimal

namespace Binary64

/-- The text of a number in a layout. -/
def text (layout : NumberLayout) : Binary64 → String
  | .nan => "NaN"
  | .infinity negative => if negative then "-Infinity" else "Infinity"
  | .finite negative mantissa exponent _ =>
      if mantissa = 0 then
        String.ofList
          ((if negative && layout.signsZero then ['-'] else [])
            ++ (if layout.showsFraction then ['0', '.', '0'] else ['0']))
      else
        String.ofList
          ((if negative then ['-'] else []) ++ (shortest layout.tie mantissa exponent).text layout)

/-- The text of a number in rendered values, without exponent and without a needless fraction. -/
def valueText (x : Binary64) : String :=
  x.text .value

example :
    (ofDecimal false 15 20).valueText = "1500000000000000000000" ∧
      (ofDecimal false 15 20).text .json = "1.5e+21" := by
  decide +kernel

end Binary64

end RecordSchema
