/-!
# Hexadecimal digits

Escapes give the code of a character in hexadecimal digits.
-/

namespace RecordSchema.Text

/-- The value of a hexadecimal digit. -/
def hexValue? (c : Char) : Option Nat :=
  if c.isDigit then some (c.toNat - '0'.toNat)
  else if 'a' ≤ c && c ≤ 'f' then some (c.toNat - 'a'.toNat + 10)
  else if 'A' ≤ c && c ≤ 'F' then some (c.toNat - 'A'.toNat + 10)
  else none

/-- The character with this code, unless there is none. -/
def charOfCode? (code : Nat) : Option Char :=
  if code.isValidChar then some (Char.ofNat code) else none

example : hexValue? 'B' = some 11 ∧ hexValue? 'g' = none ∧ charOfCode? 0xd800 = none := by
  decide +kernel

end RecordSchema.Text
